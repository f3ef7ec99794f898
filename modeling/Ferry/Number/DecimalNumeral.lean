import Ferry.Number.Binary64
import Ferry.Text.Numeral

set_option autoImplicit false

/-! # Reading decimal fractions

A decimal fraction has digits, perhaps a point among, before or behind them, and perhaps a power
of ten. It denotes an exact number, which is then rounded to double precision. -/

namespace Ferry.Number

/-- The parts of a decimal fraction as they were read. -/
structure DecimalNumeral where
  negative : Bool
  coefficient : Nat
  exponent : Int

namespace DecimalNumeral

/-- Take a sign from the front. -/
def takeSign : List Char → Bool × List Char
  | '-' :: cs => (true, cs)
  | '+' :: cs => (false, cs)
  | cs => (false, cs)

/-- The power of ten behind the digits: nothing, or `e` and an integer. -/
def power? : List Char → Option Int
  | [] => some 0
  | c :: cs => if c = 'e' ∨ c = 'E' then Text.integer? cs else none

/-- Read a decimal fraction; at least one digit stands before or behind the point. -/
def parse? (cs : List Char) : Option DecimalNumeral := do
  let (negative, cs) := takeSign cs
  let whole := cs.takeWhile Text.isDigit
  let rest := cs.dropWhile Text.isDigit
  let (part, rest) :=
    match rest with
    | '.' :: more => (more.takeWhile Text.isDigit, more.dropWhile Text.isDigit)
    | _ => ([], rest)
  let coefficient ← Text.natural? (whole ++ part)
  let power ← power? rest
  return ⟨negative, coefficient, power - part.length⟩

/-- The nearest double-precision number. -/
def toBinary64 (d : DecimalNumeral) : Binary64 :=
  Binary64.ofDecimal d.negative d.coefficient d.exponent

end DecimalNumeral

end Ferry.Number
