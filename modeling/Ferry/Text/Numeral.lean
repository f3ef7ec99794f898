set_option autoImplicit false

/-! # Decimal numerals

Reading whole numbers from digits, with an optional sign, and within the bounds of a machine
integer. -/

namespace Ferry.Text

/-- The value of an ASCII decimal digit. -/
def digitValue (c : Char) : Option Nat :=
  if '0' ≤ c ∧ c ≤ '9' then some (c.toNat - '0'.toNat) else none

/-- Whether the character is an ASCII decimal digit. -/
def isDigit (c : Char) : Bool := (digitValue c).isSome

/-- Read decimal digits onto the value of the digits before them. -/
def digitsOnto (value : Nat) : List Char → Option Nat
  | [] => some value
  | c :: rest => do digitsOnto (value * 10 + (← digitValue c)) rest

/-- A numeral: one or more digits. -/
def natural? (cs : List Char) : Option Nat := if cs.isEmpty then none else digitsOnto 0 cs

/-- An integer: digits after an optional plus or minus sign. -/
def integer? : List Char → Option Int
  | '-' :: cs => (natural? cs).map (fun n => -(n : Int))
  | '+' :: cs => (natural? cs).map Int.ofNat
  | cs => (natural? cs).map Int.ofNat

/-- The integers of 64 bits with sign. -/
def inInt64 (n : Int) : Bool := -Nat.pow 2 63 ≤ n && n < Nat.pow 2 63

/-- The integers of 64 bits without sign. -/
def inUInt64 (n : Int) : Bool := 0 ≤ n && n < Nat.pow 2 64

/-- An integer of 64 bits with sign. -/
def int64? (s : String) : Option Int := (integer? s.toList).filter inInt64

end Ferry.Text
