import Ferry.Number.Rounding

set_option autoImplicit false

/-! # Binary floating point by its bits

A `Binary64` is the 64 bits of a double-precision number. Its value, and rounding a fraction to
such a number, are given in exact arithmetic on naturals, so nothing here depends on a machine's
floating-point unit. Two numbers are equal when their bits are: zero and minus zero differ, and a
not-a-number equals itself. -/

namespace Ferry.Number

/-- A double-precision number, kept as its bits: sign, eleven bits of exponent, 52 of fraction. -/
structure Binary64 where
  bits : UInt64
deriving DecidableEq, Inhabited

namespace Binary64

/-! ## Fields and classes -/

/-- Whether the sign bit is set. -/
def negative (x : Binary64) : Bool := Nat.pow 2 63 ≤ x.bits.toNat

/-- The biased exponent. -/
def exponentField (x : Binary64) : Nat := x.bits.toNat / Nat.pow 2 52 % 2048

/-- The bits behind the leading one. -/
def fractionField (x : Binary64) : Nat := x.bits.toNat % Nat.pow 2 52

def isNaN (x : Binary64) : Bool := x.exponentField == 2047 && x.fractionField != 0

def isInfinite (x : Binary64) : Bool := x.exponentField == 2047 && x.fractionField == 0

def isFinite (x : Binary64) : Bool := x.exponentField != 2047

/-- The whole factor of a finite number's magnitude, `significand * 2 ^ exponent`. -/
def significand (x : Binary64) : Nat :=
  if x.exponentField = 0 then x.fractionField else Nat.pow 2 52 + x.fractionField

/-- The power of two of a finite number's magnitude, `significand * 2 ^ exponent`. -/
def exponent (x : Binary64) : Int := (max x.exponentField 1 : Nat) - 1075

/-! ## Rounding into a binary format -/

/-- Assemble a number from a sign, a biased exponent and a fraction. -/
def ofFields (negative : Bool) (exponentField fractionField : Nat) : Binary64 :=
  ⟨UInt64.ofNat
    ((if negative then Nat.pow 2 63 else 0) + exponentField * Nat.pow 2 52 + fractionField)⟩

/-- Infinity of either sign. -/
def infinity (negative : Bool) : Binary64 := ofFields negative 2047 0

/-- A binary format: `precision` bits of significand, and the exponents of the last significand
    bit of the smallest and of the largest numbers. -/
structure Format where
  precision : Nat
  least : Int
  greatest : Int

/-- The double-precision format. -/
def double : Format := ⟨53, -1074, 971⟩

/-- The single-precision format. -/
def single : Format := ⟨24, -149, 104⟩

/-- A quotient `num / den` rounded to a format: `some (m, e)` for `m * 2 ^ e`, or `none` when it
    is beyond the format's largest number. -/
def Format.round (f : Format) (num den : Nat) : Option (Nat × Int) :=
  if num = 0 then some (0, f.least)
  else
    let scaled (e : Int) : Nat × Nat :=
      if 0 ≤ e then (num, den * Nat.pow 2 e.toNat) else (num * Nat.pow 2 (-e).toNat, den)
    let guess : Int := (bitLength num : Int) - bitLength den - f.precision
    let (n, d) := scaled guess
    let exact : Int := if Nat.pow 2 f.precision ≤ n / d then guess + 1 else guess
    let e := max exact f.least
    let (n, d) := scaled e
    let m := roundDiv n d
    let (m, e) := if m = Nat.pow 2 f.precision then (m / 2, e + 1) else (m, e)
    if f.greatest < e then none else some (m, e)

/-- The number `± m * 2 ^ e` for `m < 2 ^ 53` and an exponent of the format. -/
def ofScaled (negative : Bool) (m : Nat) (e : Int) : Binary64 :=
  let shift := if m = 0 then 0 else 53 - bitLength m
  let shift := min shift (e + 1074).toNat
  let m := m * Nat.pow 2 shift
  let e := e - shift
  if m < Nat.pow 2 52 then ofFields negative 0 m
  else ofFields negative (e + 1075).toNat (m - Nat.pow 2 52)

/-- The double-precision number nearest to `± num / den`. -/
def ofFraction (negative : Bool) (num den : Nat) : Binary64 :=
  match double.round num den with
  | some (m, e) => ofScaled negative m e
  | none => infinity negative

/-- The double-precision number nearest to `± coefficient * 10 ^ exponent`. Exponents far outside
    the format are answered without computing the power. -/
def ofDecimal (negative : Bool) (coefficient : Nat) (exponent : Int) : Binary64 :=
  if coefficient = 0 then ofFields negative 0 0
  else if 400 < exponent then infinity negative
  else if exponent + digitCount coefficient < -400 then ofFields negative 0 0
  else if 0 ≤ exponent then ofFraction negative (coefficient * Nat.pow 10 exponent.toNat) 1
  else ofFraction negative coefficient (Nat.pow 10 (-exponent).toNat)

/-- The magnitude of a finite number as a quotient of naturals. -/
def fraction (x : Binary64) : Nat × Nat :=
  if 0 ≤ x.exponent then (x.significand * Nat.pow 2 x.exponent.toNat, 1)
  else (x.significand, Nat.pow 2 (-x.exponent).toNat)

/-- The nearest number that single precision holds too. -/
def toSingle (x : Binary64) : Binary64 :=
  if x.isFinite then
    match single.round x.fraction.1 x.fraction.2 with
    | some (m, e) => ofScaled x.negative m e
    | none => infinity x.negative
  else x

end Binary64

end Ferry.Number
