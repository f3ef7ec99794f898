import Ferry.Number.Shortest
import Ferry.Text.Basic

set_option autoImplicit false

/-! # Floating-point text

Laying out the digits of a floating-point number. A `FloatStyle` holds the decisions: where
positional notation ends, how a whole number is marked, how zero and the special values are
spelt. -/

namespace Ferry.Number

/-- The decisions of a layout. -/
structure FloatStyle where
  /-- Positional notation is used when the decimal point falls behind more than the first and at
      most the second number of digits; `none` uses it always. -/
  positional : Option (Int × Int)
  /-- What follows the digits of a whole number in positional notation. -/
  wholeMark : String
  /-- Which of two equally near digit strings is taken. -/
  tie : Tie

/-- Digits with the point `point` places behind the first digit's front. -/
def positionalText (digits : String) (point : Int) (wholeMark : String) : String :=
  let count : Int := digits.length
  if point ≤ 0 then "0." ++ Text.repeated '0' (-point).toNat ++ digits
  else if count ≤ point then digits ++ Text.repeated '0' (point - count).toNat ++ wholeMark
  else
    let cs := digits.toList
    String.ofList (cs.take point.toNat) ++ "." ++ String.ofList (cs.drop point.toNat)

/-- One digit, a point and the other digits, then the power of ten with its sign. -/
def scientificText (digits : String) (point : Int) : String :=
  let power := (if 0 < point then "+" else "") ++ toString (point - 1)
  match digits.toList with
  | [] => "0"
  | [d] => String.ofList [d] ++ "e" ++ power
  | d :: rest => String.ofList [d] ++ "." ++ String.ofList rest ++ "e" ++ power

/-- The magnitude of a finite number in a layout. -/
def FloatStyle.magnitude (style : FloatStyle) (x : Binary64) : String :=
  if x.significand = 0 then "0" ++ style.wholeMark
  else
    let d := x.shortest style.tie
    let digits := toString d.coefficient
    let point : Int := digits.length + d.exponent
    match style.positional with
    | none => positionalText digits point style.wholeMark
    | some (low, high) =>
      if low < point ∧ point ≤ high then positionalText digits point style.wholeMark
      else scientificText digits point

/-- The text of a number in a layout. -/
def FloatStyle.text (style : FloatStyle) (x : Binary64) : String :=
  if x.isNaN then "NaN"
  else
    let sign := if x.negative then "-" else ""
    if x.isInfinite then sign ++ "inf" else sign ++ style.magnitude x

/-- The plain layout: never a power of ten, and a whole number has no point. -/
def FloatStyle.plain : FloatStyle := ⟨none, "", .upward⟩

/-- The layout of numbers in documents: a whole number ends in `.0`, and a power of ten stands in
    for more than sixteen digits in front of the point or four zeros behind it. -/
def FloatStyle.document : FloatStyle := ⟨some (-5, 16), ".0", .toEven⟩

/-- The magnitude of a finite number with a fixed number of decimal places. -/
def Binary64.fixedText (places : Nat) (x : Binary64) : String :=
  let unit := Nat.pow 10 places
  let scaled := roundDiv (x.fraction.1 * unit) x.fraction.2
  toString (scaled / unit) ++ "." ++ Text.padZeros places (toString (scaled % unit))

end Ferry.Number
