import Ferry.Postgres.Decoder
import Ferry.Proofs.Calendar
import Ferry.Proofs.Document.Distinct
import Ferry.Proofs.Number.Decimal
import Ferry.Proofs.Postgres.Decoder
import Ferry.Proofs.Sql.Literal
import Ferry.Proofs.Uuid

set_option autoImplicit false

/-! # Different values have different literals

The literal of a value tells the expression that stands for it (`Expr.ofValue_eq_of_literal_eq`),
and the expression tells the value among those of its kind, floating-point numbers apart
(`Expr.ofValue_inj`). A text and a document may share a literal, so the kinds have to agree; the
values of one column do. -/

namespace Ferry

/-! ## Values that a source delivers -/

namespace Value

/-- Both values are of one kind. -/
def SameKind : Value → Value → Prop
  | null, null => True
  | bool _, bool _ => True
  | int _, int _ => True
  | float _, float _ => True
  | decimal _, decimal _ => True
  | text _, text _ => True
  | bytes _, bytes _ => True
  | uuid _, uuid _ => True
  | timestamp _, timestamp _ => True
  | timestampUtc _, timestampUtc _ => True
  | date _, date _ => True
  | time _, time _ => True
  | json _, json _ => True
  | _, _ => False

/-- Points in time and times of day without a zone have no parts of a microsecond, and documents
    were read from some text. -/
def IsDelivered : Value → Prop
  | timestamp m => m.clock.IsWhole
  | time t => t.IsWhole
  | json d => ∃ s, Document.parse? s = some d
  | _ => True

end Value

theorem Calendar.Clock.isWhole_ofMicros (micros : Int) : (ofMicros micros).IsWhole := by
  show _ * 1000 % 1000 = 0
  exact Nat.mul_mod_left _ _

theorem Calendar.Moment.isWhole_of_ofMicros? {micros : Int} {m : Calendar.Moment}
    (h : ofMicros? micros = some m) : m.clock.IsWhole := by
  obtain ⟨date, -, rfl⟩ := Option.map_eq_some_iff.1 h
  exact Clock.isWhole_ofMicros micros

theorem Postgres.Decoder.readNumeric_isDelivered (s : String) : (readNumeric s).IsDelivered := by
  unfold readNumeric
  split
  · split <;> exact trivial
  · exact trivial

/-- What a decoder gives is delivered. -/
theorem Postgres.Decoder.decode_isDelivered {d : Decoder} {w : Wire} {v : Value}
    (h : d.decode w = some v) : v.IsDelivered := by
  unfold decode at h
  split_ifs at h
  split at h
  · cases h
    exact trivial
  · cases d
    all_goals simp only [read, Option.map_eq_some_iff, Option.bind_eq_bind, Option.bind_eq_some_iff,
      Option.pure_def, Option.some.injEq] at h
    case numeric =>
      subst h
      exact readNumeric_isDelivered _
    case bool | text | cast =>
      subst h
      exact trivial
    case timestamp =>
      obtain ⟨n, -, m, hm, rfl⟩ := h
      exact Calendar.Moment.isWhole_of_ofMicros? hm
    case timestampUtc | date =>
      obtain ⟨n, -, m, -, rfl⟩ := h
      exact trivial
    case time =>
      obtain ⟨n, -, rfl⟩ := h
      exact Calendar.Clock.isWhole_ofMicros n
    case json =>
      obtain ⟨document, hread, rfl⟩ := h
      exact ⟨_, hread⟩
    all_goals
      obtain ⟨a, -, rfl⟩ := h
      exact trivial

/-! ## Expressions of values -/

namespace Sql

open Document (parse? regular_of_parse? compact_inj)

namespace Expr

variable {v w : Value}

/-- A literal is read as the expression of its value. -/
theorem ofValue_eq_of_literal_eq (h : literal v = literal w) : ofValue v = ofValue w := by
  have htokens := tokens_literal v
  rw [h, tokens_literal w, Option.some.injEq] at htokens
  have hread := congrArg ofTokens? htokens
  rw [ofTokens?_tokens, ofTokens?_tokens, Option.some.injEq] at hread
  exact hread.symm

theorem ofValue_eq_null_iff : ofValue v = null ↔ v = .null := by
  refine ⟨fun h => ?_, fun h => by rw [h]; rfl⟩
  cases v with
  | null => rfl
  | float x =>
      rw [ofValue] at h
      split_ifs at h
  | _ => cases h

/-- Sign and digits are those of one integer. -/
theorem int_of_number_eq {m n : Int}
    (h : number (m < 0) (toString m.natAbs) = number (n < 0) (toString n.natAbs)) : m = n := by
  simp only [number.injEq, decide_eq_decide, Nat.toString_eq_repr] at h
  obtain ⟨hsign, hdigits⟩ := h
  have hread := congrArg (fun s => Text.natural? s.toList) hdigits
  simp only [Text.natural?_repr, Option.some.injEq] at hread
  omega

/-- Among delivered values of one kind the expression tells the value. -/
theorem ofValue_inj (hkind : v.SameKind w) (hfloat : ∀ x, v ≠ .float x) (hv : v.IsDelivered)
    (hw : w.IsDelivered) (h : ofValue v = ofValue w) : v = w := by
  cases v with
  | null =>
      cases w with
      | null => rfl
      | _ => cases hkind
  | bool a =>
      cases w with
      | bool b => exact congrArg Value.bool (bool.inj h)
      | _ => cases hkind
  | int m =>
      cases w with
      | int n => exact congrArg Value.int (int_of_number_eq h)
      | _ => cases hkind
  | float x => exact absurd rfl (hfloat x)
  | decimal a =>
      cases w with
      | decimal b =>
          have hread := congrArg Number.Decimal.parse? (text.inj h).1
          rw [Number.Decimal.parse?_text, Number.Decimal.parse?_text, Option.some.injEq] at hread
          exact congrArg Value.decimal hread
      | _ => cases hkind
  | text s =>
      cases w with
      | text t => exact congrArg Value.text (text.inj h).1
      | _ => cases hkind
  | bytes a =>
      cases w with
      | bytes b =>
          have hhex : Text.hexOfBytes a = Text.hexOfBytes b :=
            String.append_right_inj "\\x" |>.1 (text.inj h).1
          exact congrArg Value.bytes (Text.hexOfBytes_inj hhex)
      | _ => cases hkind
  | uuid a =>
      cases w with
      | uuid b => exact congrArg Value.uuid (Uuid.text_inj (text.inj h).1)
      | _ => cases hkind
  | timestamp a =>
      cases w with
      | timestamp b =>
          exact congrArg Value.timestamp (Calendar.Moment.textMicros_inj hv hw (text.inj h).1)
      | _ => cases hkind
  | timestampUtc a =>
      cases w with
      | timestampUtc b =>
          exact congrArg Value.timestampUtc (Calendar.Moment.textInternet_inj (text.inj h).1)
      | _ => cases hkind
  | date a =>
      cases w with
      | date b => exact congrArg Value.date (Calendar.Date.text_inj (text.inj h).1)
      | _ => cases hkind
  | time a =>
      cases w with
      | time b => exact congrArg Value.time (Calendar.Clock.textMicros_inj hv hw (text.inj h).1)
      | _ => cases hkind
  | json a =>
      cases w with
      | json b =>
          obtain ⟨s, hs⟩ := hv
          obtain ⟨t, ht⟩ := hw
          exact congrArg Value.json
            (compact_inj (regular_of_parse? hs) (regular_of_parse? ht) (text.inj h).1)
      | _ => cases hkind

/-- The values of one column are of one kind, unless their expressions differ: a null value is
    written as nothing else is, and an exact decimal, other than a text, with its type. -/
theorem sameKind_of_yields {d : Postgres.Decoder} (hv : d.yields v) (hw : d.yields w)
    (h : ofValue v = ofValue w) : v.SameKind w := by
  by_cases hnull : v = .null
  · subst hnull
    rw [ofValue_eq_null_iff.1 h.symm]
    exact trivial
  · have hnull' : w ≠ .null := fun hw =>
      hnull (ofValue_eq_null_iff.1 (h.trans (ofValue_eq_null_iff.2 hw)))
    cases d <;> cases v <;> first | exact absurd rfl hnull | cases hv
    all_goals cases w <;> first | exact absurd rfl hnull' | cases hw
    all_goals first | exact trivial | cases h

end Expr

open Postgres (Decoder)

/-! ## Literals -/

/-- Delivered values of one kind that share a literal are the same; the literal of the null value is
    that of no other value; and no two values of a column share a literal. Floating-point numbers
    are left out: some of them have no text of their own. -/
theorem literal_tells_values :
    (∀ v w : Value, v.SameKind w → (∀ x, v ≠ .float x) → v.IsDelivered → w.IsDelivered →
      literal v = literal w → v = w) ∧
    (∀ v : Value, literal v = literal .null → v = .null) ∧
    (∀ d : Decoder, d ≠ .float4 → d ≠ .float8 → ∀ a b v w, d.decode a = some v →
      d.decode b = some w → literal v = literal w → v = w) := by
  have hkind : ∀ v w : Value, v.SameKind w → (∀ x, v ≠ .float x) → v.IsDelivered →
      w.IsDelivered → literal v = literal w → v = w := fun v w hkind hfloat hv hw h =>
    Expr.ofValue_inj hkind hfloat hv hw (Expr.ofValue_eq_of_literal_eq h)
  refine ⟨hkind, fun v h => Expr.ofValue_eq_null_iff.1 (Expr.ofValue_eq_of_literal_eq h), ?_⟩
  intro d hsingle hdouble a b v w hv hw h
  have hyields := Decoder.decode_yields hv
  have hfloat : ∀ x, v ≠ .float x := by
    rintro x rfl
    cases d
    case float4 => exact hsingle rfl
    case float8 => exact hdouble rfl
    all_goals cases hyields
  exact hkind v w
    (Expr.sameKind_of_yields hyields (Decoder.decode_yields hw) (Expr.ofValue_eq_of_literal_eq h))
    hfloat (Decoder.decode_isDelivered hv) (Decoder.decode_isDelivered hw) h

namespace Sample

/-- Two bytes, written in capital letters. -/
def capitalBytes : Postgres.Wire := ⟨.bytes, some "0AFF"⟩

/-- Two bytes, written in small letters. -/
def smallBytes : Postgres.Wire := ⟨.bytes, some "0aff"⟩

end Sample

theorem sample_literal_tells_values :
    ∃ v w, Decoder.bytes.decode Sample.capitalBytes = some v ∧
      Decoder.bytes.decode Sample.smallBytes = some w ∧ literal v = "'\\x0aff'::bytea" ∧
      literal v = literal w ∧ v = w := by
  have hcapital : Decoder.bytes.decode Sample.capitalBytes = some (.bytes [10, 255]) := rfl
  have hsmall : Decoder.bytes.decode Sample.smallBytes = some (.bytes [10, 255]) := rfl
  exact ⟨_, _, hcapital, hsmall, rfl, rfl,
    literal_tells_values.2.2 .bytes (by decide) (by decide) _ _ _ _ hcapital hsmall rfl⟩

end Sql

end Ferry
