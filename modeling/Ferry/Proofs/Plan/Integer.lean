import Ferry.Proofs.Adapt
import Ferry.Proofs.Plan.Meaning
import Ferry.Proofs.Text.Numeral

set_option autoImplicit false

/-! # Integers among the constants of a plan

What the check of a plan says about an integer that fills a column of an integer type
(`accepted_integers`). It looks at the kind of a constant and not at its size, so all that a bigint
column is given fits it, for a constant has no more than 64 bits, and a narrower column may be given
an integer that it cannot hold. -/

namespace Ferry

/-! ## Integer types -/

namespace NumericType

/-- The size of an integer type. -/
def bits? : NumericType → Option Nat
  | smallint => some 16
  | integer => some 32
  | bigint => some 64
  | real | double | decimal => none

/-- An integer is one of as many bits, with sign, as the type has. -/
def Holds (type : NumericType) (n : Int) : Prop :=
  ∃ bits, type.bits? = some bits ∧ -Nat.pow 2 (bits - 1) ≤ n ∧ n < Nat.pow 2 (bits - 1)

theorem holds_bigint_of_inInt64 {n : Int} (h : Text.inInt64 n) : bigint.Holds n := by
  rw [Text.inInt64, Bool.and_eq_true, decide_eq_true_eq, decide_eq_true_eq] at h
  exact ⟨64, rfl, h⟩

end NumericType

/-! ## What fits a numeric column -/

namespace Value

variable {v : Value} {n : Int} {d : Document} {dataType : String} {type : NumericType}
  {f : Int → Int}

theorem fits_eq_fitsNumeric (h : NumericType.ofNormal? (normalizeType dataType) = some type) :
    v.fits dataType = v.fitsNumeric type := by
  unfold fits
  simp only [NumericType.kind_of_ofNormal? h, h]

/-- Nothing but null and integers fits a column of an integer type. -/
theorem eq_null_or_int_of_fitsNumeric {bits : Nat} (htype : type.bits? = some bits)
    (h : v.fitsNumeric type) : v = .null ∨ ∃ n, v = .int n := by
  cases v with
  | null => exact .inl rfl
  | int n => exact .inr ⟨n, rfl⟩
  | float x | decimal x => cases type <;> cases htype <;> cases h
  | _ => cases h

/-- No column of an integer type takes a floating-point number. -/
theorem bits?_of_fits_float {x : Number.Binary64}
    (htype : NumericType.ofNormal? (normalizeType dataType) = some type)
    (h : (float x).fits dataType) : type.bits? = none := by
  rw [Option.eq_none_iff_forall_ne_some]
  intro bits hbits
  rw [fits_eq_fitsNumeric htype] at h
  rcases eq_null_or_int_of_fitsNumeric hbits h with hnull | ⟨n, hn⟩
  · cases hnull
  · cases hn

/-- The integer constants of a configuration have 64 bits. -/
theorem inInt64_of_ofLiteral (h : ofLiteral d = int n) : Text.inInt64 n := by
  cases d with
  | number numeral =>
      simp only [ofLiteral, ofNumberText] at h
      split at h
      · next m hread =>
        cases h
        exact (Option.filter_eq_some_iff.1 hread).2
      · split at h <;> cases h
  | _ => cases h

/-- Another integer in place of an integer. -/
def mapInt (f : Int → Int) : Value → Value
  | int n => int (f n)
  | v => v

/-- Whether a value fits a column does not hang on the size of an integer. -/
theorem fits_mapInt : (v.mapInt f).fits dataType = v.fits dataType := by
  cases v with
  | int n =>
      unfold fits
      simp only [mapInt, fitsNumeric, fitsOther]
  | _ => rfl

end Value

/-! ## Plans with other integers -/

/-- Other integers in place of those that are constants. -/
def Filling.mapInt (f : Int → Int) : Filling → Filling
  | literal value => literal (value.mapInt f)
  | column name fallback => column name (fallback.mapInt f)

section
variable {filling : Filling} {f : Int → Int}

@[simp] theorem Filling.constant_mapInt :
    (filling.mapInt f).constant = filling.constant.mapInt f := by
  cases filling <;> rfl

@[simp] theorem Filling.reads?_mapInt : (filling.mapInt f).reads? = filling.reads? := by
  cases filling <;> rfl

end

namespace Plan

/-- The plan with other integers in place of those that are constants. -/
def mapInt (f : Int → Int) (p : Plan) : Plan :=
  { p with bindings := p.bindings.map (fun b => { b with filling := b.filling.mapInt f }) }

section
variable {p : Plan} {source target : Table} {f : Int → Int}

@[simp] theorem writeColumns_mapInt : (p.mapInt f).writeColumns = p.writeColumns := by
  simp [writeColumns, mapInt, Function.comp_def]

theorem Sound.mapInt (h : p.Sound source target) : (p.mapInt f).Sound source target where
  copies := h.copies
  pairs := h.pairs
  has_source := h.has_source
  has_target := by
    rw [writeColumns_mapInt]
    exact h.has_target
  writes_once := by
    rw [writeColumns_mapInt]
    exact h.writes_once
  fills := by
    intro b' hb' t ht
    obtain ⟨b, hb, rfl⟩ := List.mem_map.1 hb'
    simp only [Filling.constant_mapInt, Filling.reads?_mapInt, Value.fits_mapInt]
    exact h.fills b hb t ht
  has_key := by
    rw [writeColumns_mapInt]
    exact h.has_key
  reconciles := h.reconciles

end

/-- The integers that a configuration gives as constants have 64 bits. -/
theorem ofEntry_inInt64 (entry : Entry) (source target : Table) :
    ∀ b ∈ (ofEntry entry source target).bindings, ∀ n, b.filling.constant = .int n →
      Text.inInt64 n := by
  intro b hb n hconstant
  rcases constant_of_mem_ofEntry hb with hnull | ⟨d, hd⟩
  · rw [hnull] at hconstant
    cases hconstant
  · exact Value.inInt64_of_ofLiteral (hd.symm.trans hconstant)

end Plan

/-! ## What the check accepts -/

/-- What is left of the constants of a plan that passed its check, in columns of integer types:
    null, or an integer, which fits if the column is a bigint. Of any other integer type the size
    of the integer does not count, for the check passes just as well with any other integers in the
    place of those that are constants. -/
theorem accepted_integers (p : Plan) (source target : Table)
    (hvalues : ∀ b ∈ p.bindings, ∀ n, b.filling.constant = .int n → Text.inInt64 n)
    (hcheck : p.check source target = .ok ()) :
    (∀ b ∈ p.bindings, ∀ t type bits, target.column? b.target = some t →
      NumericType.ofNormal? (normalizeType t.dataType) = some type → type.bits? = some bits →
        b.filling.constant = .null ∨
          ∃ n, b.filling.constant = .int n ∧ (type = .bigint → type.Holds n)) ∧
      ∀ f : Int → Int, (p.mapInt f).check source target = .ok () := by
  have hsound := Plan.check_eq_ok_iff.1 hcheck
  refine ⟨fun b hb t type bits ht htype hbits => ?_, fun f => Plan.check_eq_ok_iff.2 hsound.mapInt⟩
  have hfits := (hsound.fills b hb t ht).1
  rw [Value.fits_eq_fitsNumeric htype] at hfits
  rcases Value.eq_null_or_int_of_fitsNumeric hbits hfits with hnull | ⟨n, hn⟩
  · exact .inl hnull
  · refine .inr ⟨n, hn, ?_⟩
    rintro rfl
    exact NumericType.holds_bigint_of_inInt64 (hvalues b hb n hn)

namespace Sample

/-- A table of accounts to read. -/
def accounts : Table where
  schema := "public"
  name := "account"
  columns := [⟨"id", "bigint", false, none, 1⟩, ⟨"bonus", "numeric(20,0)", true, none, 2⟩]
  primaryKey := ["id"]

/-- A table of accounts to write. -/
def ledger : Table where
  schema := "public"
  name := "account"
  columns :=
    [⟨"id", "bigint", false, none, 1⟩, ⟨"level", "smallint", true, none, 2⟩,
      ⟨"limit", "bigint", true, none, 3⟩, ⟨"total", "numeric(20,0)", true, none, 4⟩]
  primaryKey := ["id"]

/-- The level is no integer of 16 bits with sign, and the fallback of the total none of 64. -/
def ledgerEntry : Entry where
  table := "account"
  mode := some .merge
  columns := [.same "id"]
  constants :=
    [("level", .value (.ofInt 40000)), ("limit", .value (.ofInt 9000000000)),
      ("total", .column "bonus" (some (.ofInt 9223372036854775809)))]
  conflictKey := []

def ledgerPlan : Plan := Plan.ofEntry ledgerEntry accounts ledger

theorem ledgerPlan_passes : ledgerPlan.check accounts ledger = .ok () := by rfl

end Sample

theorem sample_accepted_integers :
    Sample.ledgerPlan.check Sample.accounts Sample.ledger = .ok () ∧
      NumericType.bigint.Holds 9000000000 ∧
      (Sample.ledgerPlan.mapInt (· + 1)).check Sample.accounts Sample.ledger = .ok () := by
  obtain ⟨hfits, hany⟩ := accepted_integers Sample.ledgerPlan Sample.accounts Sample.ledger
    (Plan.ofEntry_inInt64 _ _ _) Sample.ledgerPlan_passes
  refine ⟨Sample.ledgerPlan_passes, ?_, hany (· + 1)⟩
  obtain hnull | ⟨n, hn, hholds⟩ := hfits ⟨"limit", .literal (.int 9000000000)⟩
    (.tail _ (.head _)) ⟨"limit", "bigint", true, none, 3⟩ .bigint 64 rfl rfl rfl
  · cases hnull
  · cases hn
    exact hholds rfl

/-- An integer that a column cannot hold passes the check. -/
theorem sample_level_does_not_fit :
    Sample.ledgerPlan.check Sample.accounts Sample.ledger = .ok () ∧
      (∃ b ∈ Sample.ledgerPlan.bindings, ∃ t, Sample.ledger.column? b.target = some t ∧
        NumericType.ofNormal? (normalizeType t.dataType) = some .smallint ∧
        b.filling.constant = .int 40000) ∧
      ¬ NumericType.smallint.Holds 40000 := by
  refine ⟨Sample.ledgerPlan_passes, ⟨⟨"level", .literal (.int 40000)⟩, .head _,
    ⟨"level", "smallint", true, none, 2⟩, rfl, rfl, rfl⟩, ?_⟩
  rintro ⟨bits, hbits, -, hhigh⟩
  cases hbits
  exact absurd hhigh (by decide)

end Ferry
