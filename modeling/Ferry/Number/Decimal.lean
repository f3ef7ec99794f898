import Ferry.Text.Basic
import Ferry.Text.Numeral

set_option autoImplicit false

/-! # Exact decimals

A `Decimal` is a whole coefficient of at most 96 bits over a power of ten up to `10 ^ 28`. The
scale is part of the number: `1.50` and `1.5` differ. -/

namespace Ferry.Number

/-- The number `coefficient / 10 ^ scale`. -/
structure Decimal where
  coefficient : Int
  scale : Nat
  coefficient_lt : coefficient.natAbs < Nat.pow 2 96
  scale_le : scale ≤ 28
deriving DecidableEq

namespace Decimal

/-- The decimal of a coefficient and a scale that are in range. -/
def ofParts? (coefficient : Int) (scale : Nat) : Option Decimal :=
  if h : coefficient.natAbs < Nat.pow 2 96 ∧ scale ≤ 28 then some ⟨coefficient, scale, h.1, h.2⟩
  else none

/-- The characters of a magnitude with `scale` digits behind the point. -/
def magnitudeText (magnitude scale : Nat) : String :=
  let digits := Text.padZeros (scale + 1) (toString magnitude)
  if scale = 0 then digits
  else
    let cs := digits.toList
    let whole := cs.length - scale
    String.ofList (cs.take whole) ++ "." ++ String.ofList (cs.drop whole)

/-- All digits of the scale, never a power of ten, and no sign for zero. -/
def text (d : Decimal) : String :=
  (if d.coefficient < 0 then "-" else "") ++ magnitudeText d.coefficient.natAbs d.scale

/-- Read digits, among which underscores may stand, with at most one point. -/
def parse? (s : String) : Option Decimal :=
  let (negative, cs) :=
    match s.toList with
    | '-' :: cs => (true, cs)
    | '+' :: cs => (false, cs)
    | cs => (false, cs)
  let cs := cs.filter (fun c => c != '_')
  let whole := cs.takeWhile (fun c => c != '.')
  let part := (cs.dropWhile (fun c => c != '.')).drop 1
  match Text.natural? (whole ++ part) with
  | some n => ofParts? (if negative then -(n : Int) else n) part.length
  | none => none

end Decimal

end Ferry.Number
