set_option autoImplicit false

/-! # Hexadecimal digits

Bytes and fixed-width words as lower-case hexadecimal text. Reading takes both cases. -/

namespace Ferry.Text

/-- The value of a hexadecimal digit of either case. -/
def hexValue (c : Char) : Option Nat :=
  if '0' ≤ c ∧ c ≤ '9' then some (c.toNat - '0'.toNat)
  else if 'a' ≤ c ∧ c ≤ 'f' then some (c.toNat - 'a'.toNat + 10)
  else if 'A' ≤ c ∧ c ≤ 'F' then some (c.toNat - 'A'.toNat + 10)
  else none

/-- Read hexadecimal digits onto the value of the digits before them. -/
def hexNat (value : Nat) : List Char → Option Nat
  | [] => some value
  | c :: rest => do hexNat (value * 16 + (← hexValue c)) rest

/-- Exactly `width` hexadecimal digits of `n`, the highest first. -/
def hexDigits : Nat → Nat → List Char
  | 0, _ => []
  | width + 1, n => hexDigits width (n / 16) ++ [Nat.digitChar (n % 16)]

/-- Two digits for each byte. -/
def hexOfBytes (bytes : List UInt8) : String :=
  String.ofList (bytes.flatMap (fun b => hexDigits 2 b.toNat))

/-- Read two digits for each byte. -/
def bytesOfHex : List Char → Option (List UInt8)
  | [] => some []
  | a :: b :: rest => do
    let high ← hexValue a
    let low ← hexValue b
    let bytes ← bytesOfHex rest
    return UInt8.ofNat (high * 16 + low) :: bytes
  | [_] => none

end Ferry.Text
