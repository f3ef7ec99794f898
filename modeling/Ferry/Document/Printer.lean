import Ferry.Document.Basic
import Ferry.Text.Basic
import Ferry.Text.Hex

set_option autoImplicit false

/-! # Writing documents

`Document.compact` writes without any blank. `Document.pretty` writes one member or item a line,
indented by two blanks a level. In a string the quote, the backslash and the control characters
are escaped, everything else stands for itself. -/

namespace Ferry.Document

/-- One character of a string. -/
def stringChar (c : Char) : List Char :=
  if c = '"' then ['\\', '"']
  else if c = '\\' then ['\\', '\\']
  else if c = '\n' then ['\\', 'n']
  else if c = '\r' then ['\\', 'r']
  else if c = '\t' then ['\\', 't']
  else if c = '\x08' then ['\\', 'b']
  else if c = '\x0c' then ['\\', 'f']
  else if c.toNat < 0x20 then ['\\', 'u'] ++ Text.hexDigits 4 c.toNat
  else [c]

/-- A string between quotes. -/
def stringText (s : String) : String :=
  String.ofList ('"' :: s.toList.flatMap stringChar ++ ['"'])

mutual

/-- The text without blanks. -/
def compact : Document → String
  | .null => "null"
  | .bool true => "true"
  | .bool false => "false"
  | .number text => text
  | .string s => stringText s
  | .array items => "[" ++ Text.join "," (compactItems items) ++ "]"
  | .object members => "\x7b" ++ Text.join "," (compactMembers members) ++ "\x7d"

/-- The texts of the items of an array. -/
def compactItems : List Document → List String
  | [] => []
  | d :: rest => compact d :: compactItems rest

/-- The texts of the members of an object. -/
def compactMembers : List (String × Document) → List String
  | [] => []
  | (k, d) :: rest => (stringText k ++ ":" ++ compact d) :: compactMembers rest

end

/-- Lines between an opening and a closing bracket, one level further in. -/
def bracketed (opening closing : String) (depth : Nat) (entries : List String) : String :=
  if entries.isEmpty then opening ++ closing
  else
    let inner := "\n" ++ Text.repeated ' ' (2 * (depth + 1))
    opening ++ inner ++ Text.join ("," ++ inner) entries ++ "\n"
      ++ Text.repeated ' ' (2 * depth) ++ closing

mutual

/-- The text in lines; `depth` is the level of the bracket that closes it. -/
def prettyAt (depth : Nat) : Document → String
  | .array items => bracketed "[" "]" depth (prettyItems depth items)
  | .object members => bracketed "\x7b" "\x7d" depth (prettyMembers depth members)
  | .null => "null"
  | .bool true => "true"
  | .bool false => "false"
  | .number text => text
  | .string s => stringText s

/-- The texts of the items of an array, in lines. -/
def prettyItems (depth : Nat) : List Document → List String
  | [] => []
  | d :: rest => prettyAt (depth + 1) d :: prettyItems depth rest

/-- The texts of the members of an object, in lines. -/
def prettyMembers (depth : Nat) : List (String × Document) → List String
  | [] => []
  | (k, d) :: rest => (stringText k ++ ": " ++ prettyAt (depth + 1) d) :: prettyMembers depth rest

end

/-- The text in lines. -/
def pretty (d : Document) : String := prettyAt 0 d

end Ferry.Document
