import Ferry.Number.DecimalNumeral
import Ferry.Proofs.Text.Numeral
import Mathlib.Tactic.NormNum

set_option autoImplicit false

/-! # Whole numbers of 64 bits

A whole number that needs all 64 bits has eleven bits more than a double-precision number has room
for. The nearest such number is found by rounding these away, and it is finite
(`fraction_ofDecimal`). -/

namespace Ferry.Number

variable {n m num den : Nat} {e : Int}

theorem bitLength_eq {count : Nat} (hlow : 2 ^ count ≤ n) (hhigh : n < 2 ^ (count + 1)) :
    bitLength n = count + 1 := by
  have hn : n ≠ 0 := by
    rintro rfl
    exact absurd hlow (by simp)
  rw [bitLength, if_neg hn, (Nat.log2_eq_iff hn).2 ⟨hlow, hhigh⟩]

/-- A rounded quotient is the quotient or the next number. -/
theorem roundDiv_eq_or (num den : Nat) :
    roundDiv num den = num / den ∨ roundDiv num den = num / den + 1 := by
  unfold roundDiv
  dsimp only
  split_ifs <;> simp

namespace Binary64

/-! ## The steps of rounding -/

/-- A quotient over a power of two, as a quotient of naturals. -/
def scaled (num den : Nat) (e : Int) : Nat × Nat :=
  if 0 ≤ e then (num, den * Nat.pow 2 e.toNat) else (num * Nat.pow 2 (-e).toNat, den)

/-- The exponent with which a quotient has as many bits as the format. -/
def Format.exactExponent (f : Format) (num den : Nat) : Int :=
  let guess : Int := (bitLength num : Int) - bitLength den - f.precision
  if Nat.pow 2 f.precision ≤ (scaled num den guess).1 / (scaled num den guess).2 then guess + 1
  else guess

/-- Round to a whole number of steps; one bit too many is moved into the exponent. -/
def Format.roundAt (f : Format) (num den : Nat) (e : Int) : Option (Nat × Int) :=
  let m := roundDiv (scaled num den e).1 (scaled num den e).2
  let parts := if m = Nat.pow 2 f.precision then (m / 2, e + 1) else (m, e)
  if f.greatest < parts.2 then none else some parts

theorem Format.round_eq (f : Format) (h : num ≠ 0) :
    f.round num den = f.roundAt num den (max (f.exactExponent num den) f.least) := by
  unfold Format.round
  rw [if_neg h]
  rfl

/-! ## Whole numbers of 64 bits -/

theorem exactExponent_of_wide (hlow : 2 ^ 63 ≤ n) (hhigh : n < 2 ^ 64) :
    double.exactExponent n 1 = 11 := by
  have hbits : bitLength n = 64 := bitLength_eq hlow hhigh
  have hone : bitLength 1 = 1 := by decide
  have hguess : (bitLength n : Int) - bitLength 1 - double.precision = 10 := by
    rw [hbits, hone]
    rfl
  have hwide : Nat.pow 2 double.precision ≤ (scaled n 1 10).1 / (scaled n 1 10).2 := by
    show 2 ^ 53 ≤ n / (1 * 2 ^ 10)
    omega
  simp only [Format.exactExponent, hguess, if_pos hwide]
  rfl

/-- Eleven bits are rounded away, and 53 are left. -/
theorem round_of_wide (hlow : 2 ^ 63 ≤ n) (hhigh : n < 2 ^ 64) :
    ∃ m e, double.round n 1 = some (m, e) ∧ 2 ^ 52 ≤ m ∧ m < 2 ^ 53 ∧ (e = 11 ∨ e = 12) ∧
      m * 2 ^ e.toNat = roundDiv n (2 ^ 11) * 2 ^ 11 := by
  have hround : double.round n 1 = double.roundAt n 1 11 := by
    rw [Format.round_eq double (by omega), exactExponent_of_wide hlow hhigh]
    rfl
  have hparts : double.roundAt n 1 11
      = let parts := if roundDiv n (2 ^ 11) = 2 ^ 53 then (roundDiv n (2 ^ 11) / 2, (12 : Int))
          else (roundDiv n (2 ^ 11), 11)
        if 971 < parts.2 then none else some parts := rfl
  have hrounded := roundDiv_eq_or n (2 ^ 11)
  rw [hround, hparts]
  by_cases hfull : roundDiv n (2 ^ 11) = 2 ^ 53
  · exact ⟨2 ^ 52, 12, by rw [if_pos hfull, hfull]; rfl, by decide, by decide, .inr rfl,
      by rw [hfull]; rfl⟩
  · refine ⟨roundDiv n (2 ^ 11), 11, by rw [if_neg hfull]; rfl, ?_, ?_, .inl rfl, rfl⟩ <;> omega

theorem fields_ofFields (exponent fraction : Nat) (hexponent : exponent < 2047)
    (hfraction : fraction < 2 ^ 52) :
    (ofFields false exponent fraction).exponentField = exponent ∧
      (ofFields false exponent fraction).fractionField = fraction := by
  have hbits : (ofFields false exponent fraction).bits.toNat = exponent * 2 ^ 52 + fraction := by
    show (UInt64.ofNat (0 + exponent * 2 ^ 52 + fraction)).toNat = _
    rw [Nat.zero_add, UInt64.toNat_ofNat_of_lt']
    show exponent * 2 ^ 52 + fraction < 2 ^ 64
    omega
  constructor
  · show (ofFields false exponent fraction).bits.toNat / 2 ^ 52 % 2048 = exponent
    rw [hbits]
    omega
  · show (ofFields false exponent fraction).bits.toNat % 2 ^ 52 = fraction
    rw [hbits]
    omega

/-- A number of 53 bits is kept as it is. -/
theorem fraction_ofScaled (hlow : 2 ^ 52 ≤ m) (hhigh : m < 2 ^ 53) (he : 0 ≤ e) (hsmall : e < 972) :
    (ofScaled false m e).isFinite ∧ (ofScaled false m e).fraction = (m * 2 ^ e.toNat, 1) := by
  have hm : m ≠ 0 := by omega
  have hkept : ofScaled false m e = ofFields false (e + 1075).toNat (m - 2 ^ 52) := by
    have hbits : bitLength m = 53 := bitLength_eq hlow hhigh
    have hunmoved : min (53 - 53) (e + 1074).toNat = 0 ∧ m * Nat.pow 2 0 = m ∧ e - (0 : Nat) = e :=
      ⟨by omega, Nat.mul_one m, by omega⟩
    unfold ofScaled
    simp only [if_neg hm, hbits, hunmoved, Nat.pow_eq, if_neg (Nat.not_lt.2 hlow)]
  obtain ⟨hexponent, hfraction⟩ := fields_ofFields (e + 1075).toNat (m - 2 ^ 52)
    (by omega) (by omega)
  rw [hkept]
  constructor
  · rw [isFinite, hexponent]
    exact bne_iff_ne.2 (by omega)
  · have hsignificand : (ofFields false (e + 1075).toNat (m - 2 ^ 52)).significand = m := by
      rw [significand, hexponent, hfraction, if_neg (by omega), Nat.pow_eq]
      omega
    have hpower : (ofFields false (e + 1075).toNat (m - 2 ^ 52)).exponent = e := by
      rw [exponent, hexponent]
      omega
    rw [fraction, hsignificand, hpower, if_pos he]
    rfl

/-- The number nearest to a whole number of 64 bits is finite, and a multiple of the eleventh power
    of two. -/
theorem fraction_ofDecimal (hlow : 2 ^ 63 ≤ n) (hhigh : n < 2 ^ 64) :
    (ofDecimal false n 0).isFinite ∧
      (ofDecimal false n 0).fraction = (roundDiv n (2 ^ 11) * 2 ^ 11, 1) := by
  obtain ⟨m, e, hround, hm, hm', he, hvalue⟩ := round_of_wide hlow hhigh
  have hnearest : ofDecimal false n 0 = ofScaled false m e := by
    have hn : n ≠ 0 := by omega
    have hexponent : ¬ (400 : Int) < 0 ∧ ¬ ((0 : Int) + digitCount n < -400) := by omega
    have hfraction : ofFraction false n 1 = ofScaled false m e := by rw [ofFraction, hround]
    rw [ofDecimal, if_neg hn, if_neg hexponent.1, if_neg hexponent.2, if_pos (Int.le_refl 0),
      ← hfraction]
    exact congrArg (ofFraction false · 1) (Nat.mul_one n)
  rw [hnearest, ← hvalue]
  exact fraction_ofScaled hm hm' (by omega) (by omega)

end Binary64

end Ferry.Number
