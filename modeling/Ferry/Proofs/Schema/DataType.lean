import Ferry.Proofs.Text.Trim
import Ferry.Schema.DataType
import Mathlib.Tactic.SplitIfs

set_option autoImplicit false

/-! # Normal forms of declared types

The normal form of a declared type is what stands in front of the first parenthesis, trimmed and in
lower case (`normalizeType_eq`), and a normal form is its own normal form. What is looked up for a
type, its kind or its place among the numeric types, is looked up by the normal form, and the names
in the two tables differ. -/

namespace Ferry

/-- What stands in front of the length or precision of a declared type. -/
def withoutModifier (dataType : String) : String :=
  String.ofList (Text.beforeOpening dataType.toList)

theorem withoutModifier_of_notMem {dataType : String} (h : '(' ∉ dataType.toList) :
    withoutModifier dataType = dataType := by
  rw [withoutModifier, Text.beforeOpening_of_notMem h, String.ofList_toList]

/-- Where nothing is cut off there is nothing more to trim. -/
theorem normalizeType_eq_ofList (dataType : String) : normalizeType dataType =
    String.ofList (Text.dropBlankEnd
      (Text.beforeOpening (Text.lower (Text.trim dataType)).toList)) := by
  simp only [normalizeType, List.contains_iff_mem]
  split
  · rfl
  · next hnotMem =>
      have htrimmed : Text.dropBlankEnd (Text.lower (Text.trim dataType)).toList
          = (Text.lower (Text.trim dataType)).toList := by
        rw [Text.lower, String.toList_ofList, Text.dropBlankEnd_lowerFrom, Text.trim,
          String.toList_ofList]
        exact congrArg (Text.lowerFrom []) (List.rdropWhile_idempotent Text.isBlank _)
      rw [Text.beforeOpening_of_notMem hnotMem, htrimmed]

/-- The normal form is what stands in front of the length or precision, trimmed and in lower
    case. -/
theorem normalizeType_eq (dataType : String) :
    normalizeType dataType = Text.lower (Text.trim (withoutModifier dataType)) := by
  rw [normalizeType_eq_ofList, Text.lower, String.toList_ofList, Text.beforeOpening_lowerFrom,
    Text.dropBlankEnd_lowerFrom, Text.trim_eq, String.toList_ofList,
    Text.dropBlankEnd_beforeOpening_trimmed, withoutModifier, Text.trim_eq, Text.lower,
    String.toList_ofList, String.toList_ofList]

theorem opening_notMem_normalizeType (dataType : String) :
    '(' ∉ (normalizeType dataType).toList := by
  rw [normalizeType_eq_ofList, String.toList_ofList]
  intro hmem
  have hfront := List.rdropWhile_prefix Text.isBlank
    (Text.beforeOpening (Text.lower (Text.trim dataType)).toList)
  exact Text.opening_notMem_beforeOpening _ (hfront.subset hmem)

/-- A normal form is its own normal form. -/
theorem normalizeType_normalizeType (dataType : String) :
    normalizeType (normalizeType dataType) = normalizeType dataType := by
  rw [normalizeType_eq (normalizeType dataType),
    withoutModifier_of_notMem (opening_notMem_normalizeType dataType), normalizeType_eq,
    Text.trim_lower, Text.trim_trim, Text.lower_lower]

/-- Two spellings of one normal form are reconciled with the same types. -/
theorem reconcilable_congr {a b : String} (h : normalizeType a = normalizeType b) (other : String) :
    reconcilable a other = reconcilable b other ∧ reconcilable other a = reconcilable other b := by
  simp only [reconcilable, h, and_self]

/-! ## Kinds -/

namespace ColumnKind

theorem ofType_normalizeType (dataType : String) :
    ofType (normalizeType dataType) = ofType dataType := by
  unfold ofType
  rw [normalizeType_normalizeType]

theorem ofType_congr {a b : String} (h : normalizeType a = normalizeType b) :
    ofType a = ofType b := by
  rw [← ofType_normalizeType a, h, ofType_normalizeType]

theorem ofType_eq_structured_iff {dataType : String} :
    ofType dataType = .structured ↔ normalizeType dataType ∈ structuredTypes := by
  unfold ofType
  by_cases hstructured : normalizeType dataType ∈ structuredTypes
  · simp [hstructured]
  · by_cases htext : normalizeType dataType ∈ textTypes <;> simp [hstructured, htext]

/-- The types that hold text or documents are those of the two tables. -/
theorem ofType_ne_other_iff {dataType : String} :
    ofType dataType ≠ .other ↔ normalizeType dataType ∈ structuredTypes ++ textTypes := by
  unfold ofType
  by_cases hstructured : normalizeType dataType ∈ structuredTypes
  · simp [hstructured]
  · by_cases htext : normalizeType dataType ∈ textTypes <;> simp [hstructured, htext]

end ColumnKind

/-! ## Numeric types -/

namespace NumericType

/-- The names of a numeric type. -/
def names : NumericType → List String
  | smallint => ["smallint", "int2"]
  | integer => ["integer", "int", "int4"]
  | bigint => ["bigint", "int8"]
  | real => ["real", "float4"]
  | double => ["double precision", "float8"]
  | decimal => ["numeric", "decimal"]

theorem ofNormal?_eq_some_iff {t : String} {type : NumericType} :
    ofNormal? t = some type ↔ t ∈ type.names := by
  constructor
  · intro h
    unfold ofNormal? at h
    split_ifs at h with hname hname hname hname hname hname
    all_goals
      cases h
      simpa [names] using hname
  · intro h
    have hall : ∀ t ∈ type.names, ofNormal? t = some type := by cases type <;> decide
    exact hall t h

/-- No numeric type holds text or documents. -/
theorem kind_of_ofNormal? {t : String} {type : NumericType} (h : ofNormal? t = some type) :
    ColumnKind.ofType t = .other := by
  have hall : ∀ t ∈ type.names, ColumnKind.ofType t = .other := by
    cases type <;> decide
  exact hall t (ofNormal?_eq_some_iff.1 h)

end NumericType

end Ferry
