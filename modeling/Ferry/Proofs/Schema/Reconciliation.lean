import Ferry.Proofs.Schema.DataType

set_option autoImplicit false

/-! # Which types are reconciled

Values of one declared type may go into a column of another in three ways (`Reconciles`): the two
have one normal form, both hold text or documents, or a numeric type goes into a wider one.
Floating-point types are below the decimal one in the order and never become it, so the order alone
does not say which numeric types go together; that two such steps still make one (`Widens.trans`) is
what makes the whole relation a preorder (`reconcilable_preorder`). -/

namespace Ferry

/-! ## Wider numeric types -/

namespace NumericType

/-- A numeric type goes into one that is not below it, and none of floating-point numbers goes into
    the decimal one. -/
def Widens (source target : NumericType) : Prop :=
  source.rank ≤ target.rank ∧ (source = real ∨ source = double → target ≠ decimal)

variable {a b c : NumericType}

/-- A type of which this is the normal form holds no text. -/
theorem kind_of_mem_names {dataType : String} (h : normalizeType dataType ∈ a.names) :
    ColumnKind.ofType dataType = .other := by
  rw [← ColumnKind.ofType_normalizeType]
  exact kind_of_ofNormal? (ofNormal?_eq_some_iff.2 h)

/-- A name belongs to one numeric type. -/
theorem eq_of_mem_names {t : String} (ha : t ∈ a.names) (hb : t ∈ b.names) : a = b := by
  rw [← ofNormal?_eq_some_iff] at ha hb
  exact Option.some.inj (ha.symm.trans hb)

theorem widensTo_iff : a.widensTo b = true ↔ a.Widens b := by
  cases a <;> cases b <;> simp [widensTo, Widens, rank]

/-- What a floating-point type goes into is one itself, so it does not reach the decimal one in two
    steps either. -/
theorem Widens.trans (hab : a.Widens b) (hbc : b.Widens c) : a.Widens c := by
  refine ⟨Nat.le_trans hab.1 hbc.1, ?_⟩
  intro hfloat
  have hmiddle : b = real ∨ b = double := by
    have hle := hab.1
    have hne := hab.2 hfloat
    rcases hfloat with rfl | rfl <;> cases b <;> simp_all [rank]
  exact hbc.2 hmiddle

end NumericType

/-! ## The relation -/

/-- The type holds text or documents. -/
def HoldsText (dataType : String) : Prop := normalizeType dataType ∈ structuredTypes ++ textTypes

/-- How values of one type may go into a column of another. -/
inductive Reconciles (source target : String) : Prop
  /-- The types differ in their spelling at most. -/
  | same (h : normalizeType source = normalizeType target)
  /-- Both hold text or documents. -/
  | textual (hsource : HoldsText source) (htarget : HoldsText target)
  /-- Both are numeric, and the target is wide enough. -/
  | widened (m n : NumericType) (hsource : normalizeType source ∈ m.names)
      (htarget : normalizeType target ∈ n.names) (h : m.Widens n)

section
variable {a b c : String}

theorem holdsText_iff : HoldsText a ↔ ColumnKind.ofType a ≠ .other :=
  ColumnKind.ofType_ne_other_iff.symm

theorem HoldsText.congr (h : normalizeType a = normalizeType b) (ha : HoldsText a) :
    HoldsText b := by
  rwa [HoldsText, ← h]

theorem reconcilable_self (dataType : String) : reconcilable dataType dataType := by
  simp [reconcilable]

/-- The types are looked at by their normal forms alone. -/
theorem reconcilable_normalizeType (a b : String) :
    reconcilable (normalizeType a) (normalizeType b) = reconcilable a b := by
  simp only [reconcilable, normalizeType_normalizeType]

/-- The check finds just the types that are reconciled in one of the three ways. -/
theorem reconcilable_iff : reconcilable a b = true ↔ Reconciles a b := by
  by_cases hsame : normalizeType a = normalizeType b
  · exact iff_of_true (by simp [reconcilable, hsame]) (.same hsame)
  · simp only [reconcilable, if_neg hsame, ColumnKind.ofType_normalizeType]
    constructor
    · intro h
      by_cases ha : ColumnKind.ofType a = .other
      · by_cases hb : ColumnKind.ofType b = .other
        · rw [ha, hb] at h
          cases hm : NumericType.ofNormal? (normalizeType a) with
          | none => simp [hm] at h
          | some m =>
              cases hn : NumericType.ofNormal? (normalizeType b) with
              | none => simp [hn] at h
              | some n =>
                  rw [hm, hn] at h
                  exact .widened m n (NumericType.ofNormal?_eq_some_iff.1 hm)
                    (NumericType.ofNormal?_eq_some_iff.1 hn) (NumericType.widensTo_iff.1 h)
        · simp [ha] at h
      · by_cases hb : ColumnKind.ofType b = .other
        · simp [hb] at h
        · exact .textual (holdsText_iff.2 ha) (holdsText_iff.2 hb)
    · intro h
      cases h with
      | same h => exact absurd h hsame
      | textual ha hb => simp [holdsText_iff.1 ha, holdsText_iff.1 hb]
      | widened m n ha hb h =>
          rw [NumericType.kind_of_mem_names ha, NumericType.kind_of_mem_names hb,
            NumericType.ofNormal?_eq_some_iff.2 ha, NumericType.ofNormal?_eq_some_iff.2 hb]
          exact NumericType.widensTo_iff.2 h

/-- A numeric type holds no text, so the ways of the two steps agree unless one of them changes
    nothing. -/
theorem Reconciles.trans (hab : Reconciles a b) (hbc : Reconciles b c) : Reconciles a c := by
  cases hab with
  | same hab =>
      cases hbc with
      | same hbc => exact .same (hab.trans hbc)
      | textual hb hc => exact .textual (hb.congr hab.symm) hc
      | widened m n hb hc h =>
          rw [← hab] at hb
          exact .widened m n hb hc h
  | textual ha hb =>
      cases hbc with
      | same hbc => exact .textual ha (hb.congr hbc)
      | textual _ hc => exact .textual ha hc
      | widened m n hb' _ _ =>
          exact absurd (NumericType.kind_of_mem_names hb') (holdsText_iff.1 hb)
  | widened l m ha hb hlm =>
      cases hbc with
      | same hbc =>
          rw [hbc] at hb
          exact .widened l m ha hb hlm
      | textual hb' _ =>
          exact absurd (NumericType.kind_of_mem_names hb) (holdsText_iff.1 hb')
      | widened m' n hb' hc hmn =>
          cases NumericType.eq_of_mem_names hb hb'
          exact .widened l n ha hc (hlm.trans hmn)

end

/-- Being reconciled is a preorder on the declared types, and on their normal forms: a type has one
    normal form, and no more is looked at. Types that differ in it are reconciled just if both hold
    text or documents or if both are numeric, the second not below the first in the order of the
    numeric types and not the decimal one if the first is a floating-point type. -/
theorem reconcilable_preorder (a b c : String) :
    reconcilable a a = true ∧
    (reconcilable a b = true → reconcilable b c = true → reconcilable a c = true) ∧
    normalizeType (normalizeType a) = normalizeType a ∧
    reconcilable (normalizeType a) (normalizeType b) = reconcilable a b ∧
    (normalizeType a ≠ normalizeType b → (reconcilable a b = true ↔
      (HoldsText a ∧ HoldsText b) ∨
      ∃ m n : NumericType, normalizeType a ∈ m.names ∧ normalizeType b ∈ n.names ∧
        m.rank ≤ n.rank ∧ (m = .real ∨ m = .double → n ≠ .decimal))) := by
  refine ⟨reconcilable_self a, ?_, normalizeType_normalizeType a, reconcilable_normalizeType a b,
    ?_⟩
  · intro hab hbc
    rw [reconcilable_iff] at hab hbc ⊢
    exact hab.trans hbc
  · intro hne
    rw [reconcilable_iff]
    constructor
    · intro hab
      cases hab with
      | same h => exact absurd h hne
      | textual ha hb => exact .inl ⟨ha, hb⟩
      | widened m n ha hb h => exact .inr ⟨m, n, ha, hb, h.1, h.2⟩
    · rintro (⟨ha, hb⟩ | ⟨m, n, ha, hb, hrank, hfloat⟩)
      · exact .textual ha hb
      · exact .widened m n ha hb ⟨hrank, hfloat⟩

/-- Two steps from a short integer to a floating-point number in other spellings. -/
theorem sample_reconcilable_preorder :
    reconcilable " INT2" "Real" = true ∧ reconcilable "Real" "float8" = true ∧
      reconcilable " INT2" "float8" = true ∧ normalizeType " INT2" ≠ normalizeType "Real" ∧
      ∃ m n : NumericType, normalizeType " INT2" ∈ m.names ∧ normalizeType "Real" ∈ n.names ∧
        m.rank ≤ n.rank := by
  have hfirst : reconcilable " INT2" "Real" = true := by decide +kernel
  have hsecond : reconcilable "Real" "float8" = true := by decide +kernel
  have hne : normalizeType " INT2" ≠ normalizeType "Real" := by decide +kernel
  obtain ⟨-, htrans, -, -, hways⟩ := reconcilable_preorder " INT2" "Real" "float8"
  refine ⟨hfirst, hsecond, htrans hfirst hsecond, hne, ?_⟩
  rcases (hways hne).1 hfirst with ⟨htext, -⟩ | ⟨m, n, hm, hn, hrank, -⟩
  · have hkind : ColumnKind.ofType " INT2" = .other := by decide +kernel
    exact absurd hkind (holdsText_iff.1 htext)
  · exact ⟨m, n, hm, hn, hrank⟩

end Ferry
