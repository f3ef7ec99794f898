import Ferry.Number.Binary64

set_option autoImplicit false

/-! # The fewest digits that read back

Every finite double-precision number is the only one in an interval of reals that round to it.
`Binary64.shortest` tries one digit, then two, and so on: on the decimal grid of that many digits
it looks at the two neighbours of the number, and takes one that lies in the interval. If the grid
has any point in the interval, then one of the two neighbours is such a point, so the first grid
with a hit has the fewest digits; of two hits the nearer one is taken. -/

namespace Ferry.Number

/-- A positive decimal number `coefficient * 10 ^ exponent`. -/
structure Digits where
  coefficient : Nat
  exponent : Int
deriving DecidableEq, Inhabited

/-- Which of two equally near grid points is taken. -/
inductive Tie
  | upward
  | toEven
deriving DecidableEq

/-- Move zeros at the end of the coefficient into the exponent; at most `fuel` of them. -/
def Digits.strip : Nat → Digits → Digits
  | 0, d => d
  | fuel + 1, d =>
    if d.coefficient ≠ 0 ∧ d.coefficient % 10 = 0
    then Digits.strip fuel ⟨d.coefficient / 10, d.exponent + 1⟩
    else d

namespace Binary64

/-- The interval of reals that round to a finite number other than zero, with the number itself,
    over one denominator. -/
structure Interval where
  low : Nat
  value : Nat
  high : Nat
  den : Nat
  /-- Whether the two ends belong to the interval. -/
  closed : Bool

/-- The interval of a finite number: half-way to each neighbour. Below a power of two the
    neighbours are twice as dense. -/
def interval (x : Binary64) : Interval :=
  let m := x.significand
  let below := if x.fractionField = 0 ∧ 1 < x.exponentField then 1 else 2
  let unit := x.exponent - 2
  let factor := if 0 ≤ unit then Nat.pow 2 unit.toNat else 1
  let den := if 0 ≤ unit then 1 else Nat.pow 2 (-unit).toNat
  { low := (4 * m - below) * factor, value := 4 * m * factor, high := (4 * m + 2) * factor,
    den := den, closed := m % 2 == 0 }

/-- The exponent `k` with `10 ^ (k - 1) ≤ value / den < 10 ^ k`, for a positive value. -/
def Interval.magnitude (i : Interval) : Int :=
  if i.den ≤ i.value then digitCount (i.value / i.den)
  else 1 - (digitCount ((i.den - 1) / i.value) : Int)

/-- The point that represents the interval on the grid of step `10 ^ step`, if one does. -/
def Interval.onGrid (i : Interval) (tie : Tie) (step : Int) : Option Nat :=
  let up := if 0 ≤ step then 1 else Nat.pow 10 (-step).toNat
  let den := if 0 ≤ step then i.den * Nat.pow 10 step.toNat else i.den
  let low := i.low * up
  let value := i.value * up
  let high := i.high * up
  let a := value / den
  let belowHits := low < a * den || (i.closed && low == a * den)
  let aboveHits := (a + 1) * den < high || (i.closed && (a + 1) * den == high)
  if belowHits && aboveHits then
    let toBelow := value - a * den
    let toAbove := (a + 1) * den - value
    if toBelow < toAbove then some a
    else if toAbove < toBelow then some (a + 1)
    else
      match tie with
      | .upward => some (a + 1)
      | .toEven => some (if a % 2 = 0 then a else a + 1)
  else if belowHits then some a
  else if aboveHits then some (a + 1)
  else none

/-- The first grid with a hit, from `count` digits on, for at most `fuel` grids. -/
def Interval.search (i : Interval) (tie : Tie) (count : Nat) : Nat → Digits
  | 0 => ⟨i.value / i.den, 0⟩
  | fuel + 1 =>
    let step := i.magnitude - count
    match i.onGrid tie step with
    | some a => Digits.strip (count + 1) ⟨a, step⟩
    | none => Interval.search i tie (count + 1) fuel

/-- The decimal with the fewest digits that rounds to a finite number other than zero, up to its
    sign; the nearest such decimal. Seventeen digits always suffice. -/
def shortest (x : Binary64) (tie : Tie) : Digits := x.interval.search tie 1 17

end Binary64

end Ferry.Number
