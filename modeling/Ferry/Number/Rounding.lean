set_option autoImplicit false

/-! # Rounding quotients

The one way in which this library rounds: a quotient of naturals goes to the nearest natural, and
a half goes to the even neighbour. -/

namespace Ferry.Number

/-- The natural nearest to `num / den`; of two nearest ones the even one. -/
def roundDiv (num den : Nat) : Nat :=
  let q := num / den
  let r := num % den
  if 2 * r < den then q
  else if den < 2 * r then q + 1
  else if q % 2 = 0 then q else q + 1

/-- The number of digits of `n` in base ten; one for zero. -/
def digitCount (n : Nat) : Nat := (Nat.toDigits 10 n).length

/-- The position of the highest set bit, counted from one; zero for zero. -/
def bitLength (n : Nat) : Nat := if n = 0 then 0 else n.log2 + 1

end Ferry.Number
