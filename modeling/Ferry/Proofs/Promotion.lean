import Ferry.Adapt
import Ferry.Proofs.Document.Reading

set_option autoImplicit false

/-! # Promotion and canonical text

Loose text that goes into a column of documents is promoted to a document, and a document that goes
into any column is written as its canonical text. The two undo each other for plain documents
(`promote_compact`), so what such a text became when it was promoted stays as it is through any
number of columns. A document that is not plain has a canonical text that is no document, and it
comes back wrapped. -/

namespace Ferry

open Document (Regular isPlain isOpening maxDepth)

variable {d : Document} {s column : String} {kind : ColumnKind} {v : Value}

/-! ## What text becomes -/

theorem not_isBlank_of_isDigit {c : Char} (h : Text.isDigit c) : Text.isBlank c = false := by
  unfold Text.isDigit Text.digitValue at h
  split_ifs at h with hc
  · have hrange : 48 ≤ c.toNat ∧ c.toNat ≤ 57 := hc
    simp only [Text.isBlank, Bool.or_eq_false_iff, Bool.and_eq_false_iff, beq_eq_false_iff_ne,
      decide_eq_false_iff_not]
    omega
  · cases h

theorem not_isBlank_of_isOpening {c : Char} (h : isOpening c) : Text.isBlank c = false := by
  simp only [isOpening, Bool.or_eq_true, decide_eq_true_eq] at h
  rcases h with ((((((rfl | rfl) | rfl) | rfl) | rfl) | rfl) | rfl) | hdigit
  all_goals first | exact not_isBlank_of_isDigit hdigit | rfl

/-- The document around text that is none. -/
def wrapped (s : String) : Document := .object [(rawKey, .string s)]

theorem regular_wrapped {depth : Nat} : Regular (depth + 1) (wrapped s) := by
  have hkey : rawKey ≠ Document.numberMarker := by decide
  refine .object (List.pairwise_singleton _ _)
    (fun _ => ⟨_, List.mem_singleton_self _, hkey⟩) (fun e he => ?_)
  cases List.mem_singleton.1 he
  exact .string

theorem isPlain_wrapped : (wrapped s).isPlain := rfl

theorem regular_promote (s : String) : Regular maxDepth (promote s) := by
  unfold promote
  split_ifs
  · exact Document.regular_emptyObject
  · cases hread : Document.parse? s with
    | none => exact regular_wrapped
    | some d => exact Document.regular_of_parse? hread

/-- The canonical text of a document is promoted to that document if it is plain, and is wrapped if
    it is not. -/
theorem promote_compact (h : Regular maxDepth d) :
    promote d.compact = if d.isPlain then d else wrapped d.compact := by
  have hblank : d.compact.toList.all Text.isBlank = false := by
    obtain ⟨c, more, htext, hc⟩ := h.head
    rw [htext, List.all_cons, not_isBlank_of_isOpening hc, Bool.false_and]
  rw [promote, hblank, Document.parse?_compact h]
  cases d.isPlain <;> rfl

theorem promote_compact_eq_iff (h : Regular maxDepth d) :
    promote d.compact = d ↔ d.isPlain := by
  rw [promote_compact h]
  cases hplain : d.isPlain with
  | true => simp
  | false =>
      simp only [Bool.false_eq_true, if_false, iff_false]
      intro hsame
      rw [← hsame, isPlain_wrapped] at hplain
      cases hplain

/-! ## Passing through columns -/

/-- What a column gives back for a value that was written to it. A column of documents gives the
    document that a text spells, and refuses a text that spells none. -/
def readBack? (kind : ColumnKind) (v : Value) : Option Value :=
  match kind, v with
  | .structured, .text s => (Document.parse? s).map .json
  | _, v => some v

/-- Write a value to a column, read it from there, write it to the next column, and so on. -/
def passThrough (column : String) : List ColumnKind → Value → Option Value
  | [], v => some v
  | kind :: rest, v =>
    match v.adapt kind column with
    | .ok w => (readBack? kind w).bind (passThrough column rest)
    | .error _ => none

/-- What a column holds into which a document was copied: the document, or its text. -/
def heldBy (kind : ColumnKind) (d : Document) : Value :=
  match kind with
  | .structured => .json d
  | _ => .text d.compact

/-- A copy of a plain document is adapted to any column, and is held there as the document is. -/
theorem adapt_heldBy (h : Regular maxDepth d) (hplain : d.isPlain) (column : String)
    (last kind : ColumnKind) :
    ∃ w, (heldBy last d).adapt kind column = .ok w ∧ readBack? kind w = some (heldBy kind d) := by
  have hparse : Document.parse? d.compact = some d := by
    rw [Document.parse?_compact h, if_pos hplain]
  have hpromote : promote d.compact = d := (promote_compact_eq_iff h).2 hplain
  cases last with
  | structured =>
      refine ⟨.text d.compact, rfl, ?_⟩
      cases kind with
      | structured => rw [readBack?, hparse]; rfl
      | text | other => rfl
  | text | other =>
      cases kind with
      | structured =>
          refine ⟨.json (promote d.compact), rfl, ?_⟩
          rw [hpromote]
          rfl
      | text | other => exact ⟨_, rfl, rfl⟩

/-- However many columns a plain document passes through, the last one holds it as the first one
    would. -/
theorem passThrough_heldBy (h : Regular maxDepth d) (hplain : d.isPlain) (kinds : List ColumnKind)
    (last : ColumnKind) :
    passThrough column (kinds ++ [kind]) (heldBy last d) = some (heldBy kind d) := by
  induction kinds generalizing last with
  | nil =>
      obtain ⟨w, hw, hback⟩ := adapt_heldBy h hplain column last kind
      simp [passThrough, hw, hback]
  | cons first rest ih =>
      obtain ⟨w, hw, hback⟩ := adapt_heldBy h hplain column last first
      simp only [List.cons_append, passThrough, hw, hback, Option.bind_some]
      exact ih first

/-! ## The law of promotion -/

/-- The canonical text of the document that a text was promoted to is promoted to the same document
    if that is plain, and to an object around the canonical text if it is not; either way it is the
    same from then on. So a text that becomes a plain document passes through any number of columns
    unchanged after its first step, and a document that was read survives its way to a text and
    back just when it is plain. -/
theorem promote_canonical (t : String) :
    promote (promote t).compact
        = (if (promote t).isPlain then promote t else wrapped (promote t).compact) ∧
      (promote (promote t).compact = promote t ↔ (promote t).isPlain) ∧
      promote (promote (promote t).compact).compact = promote (promote t).compact ∧
      (∀ column, (Value.text t).adapt .structured column = .ok (.json (promote t))) ∧
      ((promote t).isPlain → ∀ column kinds kind,
        passThrough column (kinds ++ [kind]) (.json (promote t)) = some (heldBy kind (promote t))) ∧
      ∀ d, Document.parse? t = some d → ∀ column,
        (Value.json d).adapt .text column = .ok (.text d.compact) ∧
        ((Value.text d.compact).adapt .structured column = .ok (.json d) ↔ d.isPlain) := by
  have hregular := regular_promote t
  refine ⟨promote_compact hregular, promote_compact_eq_iff hregular, ?_, fun _ => rfl,
    fun hplain column kinds kind => ?_, fun d hread column => ⟨rfl, ?_⟩⟩
  · refine (promote_compact_eq_iff (regular_promote _)).2 ?_
    rw [promote_compact hregular]
    split_ifs with hplain
    · exact hplain
    · exact isPlain_wrapped
  · exact passThrough_heldBy hregular hplain kinds .structured
  · rw [← promote_compact_eq_iff (Document.regular_of_parse? hread)]
    simp [Value.adapt, Value.toDocument]

/-- Two members out of order and an item inside another one. -/
def Sample.plainText : String := "\x7b\"b\":[1,[2e5]],\"a\":null\x7d"

theorem sample_promote_canonical :
    (promote Sample.plainText).compact = "\x7b\"a\":null,\"b\":[1,[2e+5]]\x7d" ∧
      passThrough "meta" [.text, .structured, .text, .structured] (.json (promote Sample.plainText))
        = some (.json (promote Sample.plainText)) := by
  obtain ⟨-, -, -, -, hpass, -⟩ := promote_canonical Sample.plainText
  exact ⟨by decide +kernel,
    hpass (by decide +kernel) "meta" [.text, .structured, .text] .structured⟩

/-- The key that marks a number stands behind another one, and before it by its letters. -/
def Sample.markedText : String := "\x7b\"a\":1,\"$serde_json::private::Number\":\"5\"\x7d"

/-- The text is read as an object with two members, and the canonical text of that is no document
    any more: the marker comes first in it. -/
theorem sample_not_restored :
    (promote Sample.markedText).compact
        = "\x7b\"$serde_json::private::Number\":\"5\",\"a\":1\x7d" ∧
      promote (promote Sample.markedText).compact = wrapped (promote Sample.markedText).compact ∧
      promote (promote Sample.markedText).compact ≠ promote Sample.markedText := by
  have hmarked : (promote Sample.markedText).isPlain = false := by decide +kernel
  have hregular := regular_promote Sample.markedText
  refine ⟨by decide +kernel, ?_, fun hsame => ?_⟩
  · rw [promote_compact hregular, hmarked]
    rfl
  · rw [(promote_compact_eq_iff hregular).1 hsame] at hmarked
    cases hmarked

end Ferry
