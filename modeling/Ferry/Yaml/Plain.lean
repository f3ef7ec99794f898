import Ferry.Number.DecimalNumeral
import Ferry.Text.Hex

set_option autoImplicit false

/-! # Plain words

What a scalar without quotes stands for. A few words are null and the truth values, and numerals
are numbers. A numeral that begins with a needless zero is text, and so is all else. -/

namespace Ferry.Yaml

open Number (Binary64 DecimalNumeral)

/-- What a plain scalar stands for. -/
inductive Meaning
  | null
  | bool (value : Bool)
  | int (value : Int)
  | float (value : Binary64)
  | text
deriving DecidableEq, Inhabited

namespace Plain

/-- The words for null. -/
def isNullWord (s : String) : Bool := ["null", "Null", "NULL", "~"].contains s

/-- The words for the truth values. -/
def bool? (s : String) : Option Bool :=
  if ["true", "True", "TRUE"].contains s then some true
  else if ["false", "False", "FALSE"].contains s then some false
  else none

/-- Whether a text is a zero and further digits, perhaps behind a sign. -/
def hasNeedlessZero (s : String) : Bool :=
  match (DecimalNumeral.takeSign s.toList).2 with
  | '0' :: d :: rest => (d :: rest).all Text.isDigit
  | _ => false

/-! ## Whole numbers -/

/-- The value of a digit in a base of at most sixteen. -/
def digitOf? (base : Nat) (c : Char) : Option Nat := (Text.hexValue c).filter (· < base)

/-- Read digits of a base onto the value of the digits before them. -/
def digitsOnto (base value : Nat) : List Char → Option Nat
  | [] => some value
  | c :: rest => do digitsOnto base (value * base + (← digitOf? base c)) rest

/-- One or more digits of a base. -/
def natural? (base : Nat) (cs : List Char) : Option Nat :=
  if cs.isEmpty then none else digitsOnto base 0 cs

/-- The magnitude of a whole number: a base and its digits, or decimal digits. -/
def magnitude? : List Char → Option Nat
  | '0' :: 'x' :: cs => natural? 16 cs
  | '0' :: 'o' :: cs => natural? 8 cs
  | '0' :: 'b' :: cs => natural? 2 cs
  | cs => if hasNeedlessZero (String.ofList cs) then none else natural? 10 cs

/-- A whole number behind an optional sign. -/
def int? (s : String) : Option Int :=
  match s.toList with
  | '-' :: cs => (magnitude? cs).map (fun n => -(n : Int))
  | '+' :: cs => (magnitude? cs).map Int.ofNat
  | cs => (magnitude? cs).map Int.ofNat

/-- A whole number without a minus sign. -/
def natural64? (s : String) : Option Nat :=
  if s.toList.head? = some '-' then none
  else ((int? s).filter Text.inUInt64).map Int.toNat

/-! ## Fractions -/

/-- The words for infinity. -/
def isInfinityWord (s : String) : Bool := [".inf", ".Inf", ".INF"].contains s

/-- The words for a not-a-number. -/
def isNaNWord (s : String) : Bool := [".nan", ".NaN", ".NAN"].contains s

/-- The not-a-number that is written as a word. -/
def notANumber : Binary64 := Binary64.ofFields false 2047 (Nat.pow 2 51)

/-- A floating-point number: a decimal fraction of finite size, or a word. -/
def float? (s : String) : Option Binary64 :=
  let cs := s.toList
  let (signed, cs) :=
    match cs with
    | '+' :: rest => (true, rest)
    | _ => (false, cs)
  if isInfinityWord (String.ofList cs) then some (Binary64.infinity false)
  else if cs.head? = some '-' && isInfinityWord (String.ofList cs.tail) && !signed then
    some (Binary64.infinity true)
  else if isNaNWord s then some notANumber
  else if signed && (cs.head? = some '-' || cs.head? = some '+') then none
  else ((DecimalNumeral.parse? cs).map DecimalNumeral.toBinary64).filter Binary64.isFinite

/-! ## All together -/

/-- Whether a whole number fits 128 bits, with or without sign. A greater one is read as a
    floating-point number. -/
def isCounted (n : Int) : Bool := -Nat.pow 2 127 ≤ n && n < Nat.pow 2 128

/-- What a plain scalar stands for. -/
def meaning (s : String) : Meaning :=
  if s.isEmpty || isNullWord s then .null
  else
    match bool? s with
    | some b => .bool b
    | none =>
      match (int? s).filter isCounted with
      | some n => .int n
      | none =>
        if hasNeedlessZero s then .text
        else
          match float? s with
          | some x => .float x
          | none => .text

end Plain

end Ferry.Yaml
