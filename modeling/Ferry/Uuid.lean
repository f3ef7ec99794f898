import Ferry.Text.Hex

set_option autoImplicit false

/-! # Universally unique identifiers

A 128-bit word, written as 32 hexadecimal digits in five groups. Reading also takes the digits
without hyphens, and the grouped form in braces or behind `urn:uuid:`. -/

namespace Ferry

/-- A universally unique identifier. -/
structure Uuid where
  word : BitVec 128
deriving DecidableEq

namespace Uuid

/-- The lengths of the five groups of digits. -/
def groups : List Nat := [8, 4, 4, 4, 12]

/-- Cut a list into groups of the given lengths, joined by hyphens. -/
def hyphenated : List Nat → List Char → List Char
  | [], cs => cs
  | [_], cs => cs
  | n :: m :: rest, cs => cs.take n ++ '-' :: hyphenated (m :: rest) (cs.drop n)

/-- The identifier of 128 random bits, of which six are taken to say that it is a random one. -/
def ofRandom (bits : BitVec 128) : Uuid :=
  let version : BitVec 128 := (4 : BitVec 128) <<< 76
  let versionMask : BitVec 128 := (15 : BitVec 128) <<< 76
  let variant : BitVec 128 := (2 : BitVec 128) <<< 62
  let variantMask : BitVec 128 := (3 : BitVec 128) <<< 62
  ⟨bits &&& ~~~versionMask &&& ~~~variantMask ||| version ||| variant⟩

/-- Lower-case digits in groups of 8, 4, 4, 4 and 12. -/
def text (u : Uuid) : String :=
  String.ofList (hyphenated groups (Text.hexDigits 32 u.word.toNat))

/-- Take the hyphens out of a grouped form; `none` unless they stand between the groups. -/
def ungrouped? : List Nat → List Char → Option (List Char)
  | [], cs => if cs.isEmpty then some [] else none
  | [n], cs => if cs.length = n then some cs else none
  | n :: m :: rest, cs =>
    match cs.drop n with
    | '-' :: more => (ungrouped? (m :: rest) more).map (cs.take n ++ ·)
    | _ => none

/-- The word of 32 hexadecimal digits. -/
def ofDigits? (cs : List Char) : Option Uuid :=
  if cs.length = 32 then (Text.hexNat 0 cs).map (fun n => ⟨BitVec.ofNat 128 n⟩) else none

/-- Read any of the four forms. -/
def parse? (s : String) : Option Uuid :=
  let cs := s.toList
  let grouped (cs : List Char) : Option Uuid := do ofDigits? (← ungrouped? groups cs)
  if cs.length = 32 then ofDigits? cs
  else if cs.length = 36 then grouped cs
  else if cs.length = 38 then
    if cs.head? = some '\x7b' ∧ cs.getLast? = some '\x7d' then grouped (cs.drop 1).dropLast
    else none
  else if cs.length = 45 ∧ (cs.take 9).map Char.toLower = "urn:uuid:".toList then
    grouped (cs.drop 9)
  else none

end Uuid

end Ferry
