import Ferry.Postgres.Decoder
import Ferry.Proofs.Schema.DataType

set_option autoImplicit false

/-! # Lengths and precisions

A length or a precision at the end of a declared type makes no difference: the type has the normal
form that it has without, and so has its kind, its decoder and the types that it is reconciled with.
Words behind the parentheses are lost with them (`modifier_at_end_stripped`). -/

namespace Ferry

/-- A type with a length or a precision, and what is written behind it. -/
def modified (base modifier rest : String) : String := base ++ "(" ++ modifier ++ ")" ++ rest

section
variable {base : String}

theorem withoutModifier_modified (h : '(' ∉ base.toList) (modifier rest : String) :
    withoutModifier (modified base modifier rest) = base := by
  have hchars : (modified base modifier rest).toList
      = base.toList ++ '(' :: (modifier.toList ++ ')' :: rest.toList) := by
    simp [modified]
  rw [withoutModifier, hchars, Text.beforeOpening_append h, String.ofList_toList]

theorem normalizeType_modified (h : '(' ∉ base.toList) (modifier rest : String) :
    normalizeType (modified base modifier rest) = Text.lower (Text.trim base) := by
  rw [normalizeType_eq, withoutModifier_modified h]

end

/-- Of a declared type with a length or a precision nothing counts but what stands in front of it.
    So it is taken for the same type without the length or precision if nothing but blanks stands
    behind the parentheses, and otherwise not. -/
theorem modifier_at_end_stripped (base modifier rest : String) (hbase : '(' ∉ base.toList)
    (hrest : '(' ∉ rest.toList) :
    normalizeType (modified base modifier rest) = normalizeType base ∧
    (normalizeType (modified base modifier rest) = normalizeType (base ++ rest) ↔
      ∀ c ∈ rest.toList, Text.isBlank c = true) ∧
    ((∀ c ∈ rest.toList, Text.isBlank c = true) →
      ColumnKind.ofType (modified base modifier rest) = ColumnKind.ofType (base ++ rest) ∧
      Postgres.Decoder.ofType (modified base modifier rest)
        = Postgres.Decoder.ofType (base ++ rest) ∧
      ∀ other,
        reconcilable (modified base modifier rest) other = reconcilable (base ++ rest) other ∧
        reconcilable other (modified base modifier rest) = reconcilable other (base ++ rest)) := by
  have hplain : '(' ∉ (base ++ rest).toList := by
    rw [String.toList_append, List.mem_append]
    exact fun h => h.elim hbase hrest
  have hmodified := normalizeType_modified hbase modifier rest
  have hiff : normalizeType (modified base modifier rest) = normalizeType (base ++ rest) ↔
      ∀ c ∈ rest.toList, Text.isBlank c = true := by
    rw [hmodified, normalizeType_eq, withoutModifier_of_notMem hplain, eq_comm,
      Text.lower_trim_append_iff]
  refine ⟨?_, hiff, ?_⟩
  · rw [hmodified, normalizeType_eq, withoutModifier_of_notMem hbase]
  · intro hblank
    have hsame := hiff.2 hblank
    refine ⟨ColumnKind.ofType_congr hsame, ?_, reconcilable_congr hsame⟩
    rw [Postgres.Decoder.ofType, hsame, Postgres.Decoder.ofType]

theorem sample_modifier_at_end_stripped :
    ('(' ∉ "Character Varying".toList ∧ '(' ∉ " ".toList) ∧
      normalizeType "Character Varying(64) " = "character varying" ∧
      reconcilable "Character Varying(64) " "jsonb" = true := by
  have hbase : '(' ∉ "Character Varying".toList := by decide
  have hrest : '(' ∉ " ".toList := by decide
  obtain ⟨hnormal, -, hblank⟩ := modifier_at_end_stripped "Character Varying" "64" " " hbase hrest
  obtain ⟨-, -, hother⟩ := hblank (List.all_eq_true.1 rfl)
  have htype : modified "Character Varying" "64" " " = "Character Varying(64) " := by decide
  rw [htype] at hnormal hother
  refine ⟨⟨hbase, hrest⟩, hnormal.trans (by decide +kernel), (hother "jsonb").1.trans ?_⟩
  decide +kernel

/-- What is said of the time zone behind a precision is lost: the type with a time zone is no longer
    the same as without the precision, is read by another decoder, and is the same as the type that
    has none. -/
theorem sample_time_zone_lost :
    normalizeType "timestamp(3) with time zone" ≠ normalizeType "timestamp with time zone" ∧
      Postgres.Decoder.ofType "timestamp(3) with time zone" = .timestamp ∧
      Postgres.Decoder.ofType "timestamp with time zone" = .timestampUtc ∧
      reconcilable "timestamp(3) with time zone" "timestamp with time zone" = false ∧
      reconcilable "timestamp(3) with time zone" "timestamp(3) without time zone" = true := by
  have hwith : normalizeType "timestamp(3) with time zone" = "timestamp" := by decide +kernel
  have hwithout : normalizeType "timestamp(3) without time zone" = "timestamp" := by
    decide +kernel
  have hplain : normalizeType "timestamp with time zone" = "timestamp with time zone" := by
    decide +kernel
  refine ⟨?_, ?_, ?_, ?_, ?_⟩
  · rw [hwith, hplain]
    decide
  · rw [Postgres.Decoder.ofType, hwith]
    rfl
  · rw [Postgres.Decoder.ofType, hplain]
    rfl
  · simp only [reconcilable, hwith, hplain]
    decide +kernel
  · simp [reconcilable, hwith, hwithout]

end Ferry
