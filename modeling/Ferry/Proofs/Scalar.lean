import Ferry.Proofs.Adapt
import Ferry.Proofs.Promotion

set_option autoImplicit false

/-! # Scalars in columns of documents

What adapting a value comes to (`adapt_outcome`): only a column of documents refuses a value, null
stays null and nothing else becomes null, and a scalar becomes a document. That document is read
back from its canonical text, whichever way its number came about, so a scalar that has become a
document stays as it is through any number of columns (`scalar_document_restored`). -/

namespace Ferry

open Document (Regular isPlain maxDepth)

variable {v : Value} {d : Document} {kind : ColumnKind} {column : String} {depth : Nat}

/-! ## Documents of scalars -/

theorem regular_ofInt (n : Int) : Regular depth (.ofInt n) :=
  .number (Document.isNumeral_toString n)

/-- A scalar that is no text becomes a document without anything inside. -/
theorem regular_of_toDocument (htext : ∀ s, v ≠ .text s) (hjson : ∀ d, v ≠ .json d)
    (h : v.toDocument = .ok d) : Regular depth d ∧ d.isPlain := by
  cases v with
  | null => cases h; exact ⟨.null, rfl⟩
  | bool b => cases h; exact ⟨.bool, rfl⟩
  | int n => cases h; exact ⟨regular_ofInt n, rfl⟩
  | float x =>
      simp only [Value.toDocument] at h
      split_ifs at h with hfinite
      cases h
      exact ⟨.number (Document.isNumeral_float hfinite), rfl⟩
  | decimal n =>
      rw [Value.toDocument_decimal] at h
      cases h
      exact ⟨.number (Document.isNumeral_decimal n), rfl⟩
  | text s => exact absurd rfl (htext s)
  | json d => exact absurd rfl (hjson d)
  | bytes b => cases h
  | uuid | timestamp | timestampUtc | date | time => cases h; exact ⟨.string, rfl⟩

/-! ## What adapting comes to -/

namespace Value

theorem adapt_json : (json d).adapt kind column = .ok (.text d.compact) := by
  cases kind <;> rfl

theorem adapt_of_ne_structured (hkind : kind ≠ .structured) (hjson : ∀ d, v ≠ .json d) :
    v.adapt kind column = .ok v := by
  cases kind with
  | structured => exact absurd rfl hkind
  | text | other =>
      cases v with
      | json d => exact absurd rfl (hjson d)
      | _ => rfl

theorem adapt_structured (hnull : v ≠ .null) (hjson : ∀ d, v ≠ .json d) :
    v.adapt .structured column
      = match v.toDocument with
        | .ok d => .ok (.json d)
        | .error issue => .error (.adapt column issue.message) := by
  cases v with
  | null => exact absurd rfl hnull
  | json d => exact absurd rfl (hjson d)
  | _ => rfl

theorem toDocument_of_adapt (h : v.adapt .structured column = .ok (.json d)) :
    v.toDocument = .ok d := by
  have hnull : v ≠ .null := by rintro rfl; cases h
  have hjson : ∀ d', v ≠ .json d' := by rintro d' rfl; cases h
  rw [adapt_structured hnull hjson] at h
  split at h
  · next hdocument =>
    cases h
    exact hdocument
  · cases h

theorem not_isFinite_iff {x : Number.Binary64} :
    x.isFinite = false ↔ x.isNaN ∨ x.isInfinite := by
  by_cases hfraction : x.fractionField = 0 <;>
    simp [Number.Binary64.isFinite, Number.Binary64.isNaN, Number.Binary64.isInfinite, hfraction]

theorem toDocument_eq_error_iff {issue : AdaptIssue} :
    v.toDocument = .error issue ↔
      (∃ b, v = .bytes b ∧ issue = .binary) ∨
        ∃ x, v = .float x ∧ (x.isNaN ∨ x.isInfinite) ∧ issue = .notFinite x := by
  cases v with
  | float x =>
      simp only [toDocument, reduceCtorEq, false_and, exists_false, false_or, float.injEq,
        exists_eq_left', ← not_isFinite_iff]
      cases x.isFinite <;> simp [eq_comm]
  | bytes b =>
      simp only [toDocument, reduceCtorEq, false_and, exists_false, or_false, bytes.injEq,
        exists_eq_left', Except.error.injEq, eq_comm]
  | decimal n => simp
  | _ => simp [toDocument]

theorem adapt_eq_error_iff {e : MigrationError} :
    v.adapt kind column = .error e ↔
      kind = .structured ∧ ∃ issue, v.toDocument = .error issue ∧
        e = .adapt column issue.message := by
  by_cases hkind : kind = .structured
  · subst hkind
    by_cases hnull : v = .null
    · subst hnull
      simp [adapt, toDocument]
    · by_cases hjson : ∃ d, v = .json d
      · obtain ⟨d, rfl⟩ := hjson
        simp [adapt, toDocument]
      · rw [adapt_structured hnull (fun d hd => hjson ⟨d, hd⟩)]
        cases v.toDocument <;> simp [eq_comm]
  · have hok : v.adapt kind column ≠ .error e := by
      by_cases hjson : ∃ d, v = .json d
      · obtain ⟨d, rfl⟩ := hjson
        simp [adapt_json]
      · simp [adapt_of_ne_structured hkind (fun d hd => hjson ⟨d, hd⟩)]
    simp [hkind, hok]

/-- A value comes to a column of documents as null, as a document, or, being a document, as its
    text. -/
theorem cases_of_adapt {w : Value} (h : v.adapt .structured column = .ok w) :
    (v = .null ∧ w = .null) ∨ (∃ d, v = .json d ∧ w = .text d.compact) ∨
      ∃ d, v.toDocument = .ok d ∧ w = .json d := by
  by_cases hnull : v = .null
  · subst hnull
    cases h
    exact .inl ⟨rfl, rfl⟩
  · by_cases hjson : ∃ d, v = .json d
    · obtain ⟨d, rfl⟩ := hjson
      cases h
      exact .inr (.inl ⟨d, rfl, rfl⟩)
    · rw [adapt_structured hnull (fun d hd => hjson ⟨d, hd⟩)] at h
      split at h
      · next d hdocument =>
        cases h
        exact .inr (.inr ⟨d, hdocument, rfl⟩)
      · cases h

theorem adapt_eq_null_iff : v.adapt kind column = .ok .null ↔ v = .null := by
  refine ⟨fun h => ?_, fun h => by subst h; cases kind <;> rfl⟩
  by_cases hkind : kind = .structured
  · subst hkind
    rcases cases_of_adapt h with ⟨hnull, -⟩ | ⟨d, -, hnull⟩ | ⟨d, -, hnull⟩
    · exact hnull
    · cases hnull
    · cases hnull
  · by_cases hjson : ∃ d, v = .json d
    · obtain ⟨d, rfl⟩ := hjson
      rw [adapt_json] at h
      cases h
    · rw [adapt_of_ne_structured hkind (fun d hd => hjson ⟨d, hd⟩)] at h
      exact Except.ok.inj h

end Value

/-- What adapting a value comes to. It is refused just when binary data or a floating-point number
    that is not finite goes into a column of documents, and the error names the column. Null stays
    null, and nothing else becomes null, not even a null document. In a column of another kind a
    document becomes its text and all else stays as it is. In a column of documents an integer and
    a decimal become the number of their text, from which a decimal is read back with its scale. -/
theorem adapt_outcome (v : Value) (kind : ColumnKind) (column : String) :
    (∀ e, v.adapt kind column = .error e ↔
      kind = .structured ∧ ∃ issue : AdaptIssue, e = .adapt column issue.message ∧
        ((∃ b, v = .bytes b ∧ issue = .binary) ∨
          ∃ x, v = .float x ∧ (x.isNaN ∨ x.isInfinite) ∧ issue = .notFinite x)) ∧
      (v.adapt kind column = .ok .null ↔ v = .null) ∧
      (∀ d, v = .json d → v.adapt kind column = .ok (.text d.compact)) ∧
      (v = .json .null → v.adapt kind column = .ok (.text "null")) ∧
      (kind ≠ .structured → (∀ d, v ≠ .json d) → v.adapt kind column = .ok v) ∧
      (kind = .structured → ∀ w, v.adapt kind column = .ok w →
        w = .null ∨ (∃ d, w = .json d) ∨ ∃ d, v = .json d ∧ w = .text d.compact) ∧
      (kind = .structured → ∀ n, v = .int n →
        v.adapt kind column = .ok (.json (.number (toString n))) ∧
          Document.parse? (toString n) = some (.number (toString n)) ∧
          Text.integer? (toString n).toList = some n) ∧
      (kind = .structured → ∀ n, v = .decimal n →
        v.adapt kind column = .ok (.json (.number n.text)) ∧
          Document.parse? n.text = some (.number n.text) ∧
          Number.Decimal.parse? n.text = some n) := by
  refine ⟨fun e => ?_, Value.adapt_eq_null_iff, ?_, ?_, Value.adapt_of_ne_structured, ?_, ?_, ?_⟩
  · simp only [Value.adapt_eq_error_iff, Value.toDocument_eq_error_iff]
    constructor
    · rintro ⟨hkind, issue, hissue, rfl⟩
      exact ⟨hkind, issue, rfl, hissue⟩
    · rintro ⟨hkind, issue, rfl, hissue⟩
      exact ⟨hkind, issue, hissue, rfl⟩
  · rintro d rfl
    exact Value.adapt_json
  · rintro rfl
    exact Value.adapt_json
  · rintro rfl w hw
    rcases Value.cases_of_adapt hw with ⟨-, rfl⟩ | ⟨d, rfl, rfl⟩ | ⟨d, -, rfl⟩
    · exact .inl rfl
    · exact .inr (.inr ⟨d, rfl, rfl⟩)
    · exact .inr (.inl ⟨d, rfl⟩)
  · rintro rfl n rfl
    exact ⟨rfl, Document.parse?_compact (d := .ofInt n) (regular_ofInt n), Text.integer?_toString n⟩
  · rintro rfl n rfl
    refine ⟨?_, parse?_decimal n, Number.Decimal.parse?_text n⟩
    rw [Value.adapt_structured (by simp) (by simp), Value.toDocument_decimal]

/-- A scalar that has become a document is read back from the canonical text of that, and stays as
    it is through any number of columns. A text is the one scalar that may become a document which
    is not restored. -/
theorem scalar_document_restored (v : Value) (column : String) (d : Document)
    (htext : ∀ s, v ≠ .text s) (h : v.adapt .structured column = .ok (.json d)) :
    Document.parse? d.compact = some d ∧
      (∀ column, (Value.text d.compact).adapt .structured column = .ok (.json d)) ∧
      ∀ column kinds kind,
        passThrough column (kinds ++ [kind]) (.json d) = some (heldBy kind d) := by
  have hjson : ∀ d', v ≠ .json d' := by rintro d' rfl; cases h
  have hdocument := Value.toDocument_of_adapt h
  obtain ⟨hregular, hplain⟩ : Regular maxDepth d ∧ d.isPlain :=
    regular_of_toDocument htext hjson hdocument
  refine ⟨?_, fun column => ?_, fun column kinds kind => ?_⟩
  · rw [Document.parse?_compact hregular, if_pos hplain]
  · have hpromote : promote d.compact = d := (promote_compact_eq_iff hregular).2 hplain
    exact congrArg (fun d => Except.ok (Value.json d)) hpromote
  · exact passThrough_heldBy hregular hplain kinds .structured

/-- Ten to the sixteenth, the least number that is written with a power of ten. -/
def Sample.large : Number.Binary64 := ⟨0x4341c37937e08000⟩

theorem sample_scalar_document_restored :
    (Value.float Sample.large).adapt .structured "meta" = .ok (.json (.number "1e+16")) ∧
      Document.parse? "1e+16" = some (.number "1e+16") ∧
      (Value.text "1e+16").adapt .structured "meta" = .ok (.json (.number "1e+16")) ∧
      passThrough "meta" [.text, .structured] (.json (.number "1e+16"))
        = some (.json (.number "1e+16")) := by
  have hfinite : Sample.large.isFinite = true := by decide +kernel
  have htext : Number.FloatStyle.document.text Sample.large = "1e+16" := by decide +kernel
  have hadapt : (Value.float Sample.large).adapt .structured "meta"
      = .ok (.json (.number "1e+16")) := by
    simp [Value.adapt, Value.toDocument, hfinite, htext]
  obtain ⟨hparse, hback, hpass⟩ :=
    scalar_document_restored (.float Sample.large) "meta" (.number "1e+16") (by simp) hadapt
  exact ⟨hadapt, hparse, hback "meta", hpass "meta" [.text] .structured⟩

end Ferry
