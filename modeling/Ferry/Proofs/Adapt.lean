import Ferry.Adapt
import Ferry.Proofs.Document.Numeral
import Ferry.Proofs.Document.Reading
import Ferry.Proofs.Outcome
import Ferry.Proofs.Schema.DataType

set_option autoImplicit false

/-! # Which values can be adapted

Only a column of documents refuses a value, and it refuses just binary data and floating-point
numbers that are not finite. A decimal becomes a document by way of its text, which is always
read. -/

namespace Ferry

/-- A type that holds documents does so in its normal form. -/
theorem normal_of_structured {dataType : String} (h : ColumnKind.ofType dataType = .structured) :
    normalizeType dataType ∈ structuredTypes ∧
      ColumnKind.ofType (normalizeType dataType) = .structured :=
  ⟨ColumnKind.ofType_eq_structured_iff.1 h, (ColumnKind.ofType_normalizeType dataType).trans h⟩

/-- Reading a decimal's text as a document gives the number of that text. -/
theorem parse?_decimal (n : Number.Decimal) : Document.parse? n.text = some (.number n.text) :=
  Document.parse?_compact (d := .number n.text) (.number (Document.isNumeral_decimal n))

namespace Value

@[simp] theorem toDocument_decimal (n : Number.Decimal) :
    (decimal n).toDocument = .ok (.number n.text) := by
  rw [toDocument, parse?_decimal]

/-- Whether a value has a document. -/
def hasDocument : Value → Bool
  | bytes _ => false
  | float x => x.isFinite
  | _ => true

variable {v : Value} {kind : ColumnKind} {column : String}

theorem toDocument_isOk : (toDocument v).isOk = v.hasDocument := by
  cases v with
  | float x => cases hx : x.isFinite <;> simp [toDocument, hasDocument, hx]
  | decimal n =>
      rw [toDocument_decimal]
      rfl
  | _ => rfl

theorem adapt_isOk_iff :
    (v.adapt kind column).isOk ↔ kind = .structured → v.hasDocument := by
  rw [← toDocument_isOk]
  cases kind with
  | structured =>
      cases v with
      | float x => cases hx : x.isFinite <;> simp [adapt, toDocument, hx]
      | decimal n => simp [adapt]
      | _ => simp [adapt, toDocument]
  | text | other => cases v <;> simp [adapt]

end Value

end Ferry
