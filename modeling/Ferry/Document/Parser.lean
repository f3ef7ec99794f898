import Ferry.Document.Basic
import Ferry.Text.Hex
import Ferry.Text.Numeral

set_option autoImplicit false

/-! # Reading documents

A reader for JSON texts. It refuses more than 127 containers inside each other. A number keeps its
text, except that its exponent is written with a small `e` and a sign. An object whose one member
has the key `numberMarker` and a number's text as its value stands for that number, so that
formats that know no such numbers can carry them.

Each reader takes the rest of the text and answers what it read together with what follows. -/

namespace Ferry.Document

/-- The key of an object that stands for a number. -/
def numberMarker : String := "$serde_json::private::Number"

/-- The greatest number of containers inside each other. -/
def maxDepth : Nat := 127

/-- Drop the blanks that may stand between the parts of a document. -/
def skipBlank : List Char → List Char :=
  List.dropWhile (fun c => c = ' ' || c = '\n' || c = '\t' || c = '\r')

/-! ## Numbers -/

/-- The digits in front of a text, with the rest. -/
def spanDigits (cs : List Char) : List Char × List Char :=
  (cs.takeWhile Text.isDigit, cs.dropWhile Text.isDigit)

/-- Digits in front of the point: a zero alone, or no zero in front. -/
def wholePart (cs : List Char) : Option (List Char × List Char) :=
  match cs with
  | '0' :: rest => some (['0'], rest)
  | _ =>
    let (digits, rest) := spanDigits cs
    if digits.isEmpty then none else some (digits, rest)

/-- A point with digits behind it, or nothing. -/
def fractionPart : List Char → Option (List Char × List Char)
  | '.' :: cs =>
    let (digits, rest) := spanDigits cs
    if digits.isEmpty then none else some ('.' :: digits, rest)
  | cs => some ([], cs)

/-- A power of ten, written with a small `e` and a sign, or nothing. -/
def exponentPart : List Char → Option (List Char × List Char)
  | [] => some ([], [])
  | c :: cs =>
    if c = 'e' ∨ c = 'E' then
      let (sign, cs) :=
        match cs with
        | '-' :: more => ('-', more)
        | '+' :: more => ('+', more)
        | _ => ('+', cs)
      let (digits, rest) := spanDigits cs
      if digits.isEmpty then none else some ('e' :: sign :: digits, rest)
    else some ([], c :: cs)

/-- The text of a number, with what follows it. -/
def parseNumber (cs : List Char) : Option (String × List Char) := do
  let (sign, cs) :=
    match cs with
    | '-' :: more => (['-'], more)
    | _ => ([], cs)
  let (whole, cs) ← wholePart cs
  let (fraction, cs) ← fractionPart cs
  let (exponent, cs) ← exponentPart cs
  return (String.ofList (sign ++ whole ++ fraction ++ exponent), cs)

/-- The number that a whole text denotes. -/
def number? (s : String) : Option Document :=
  match parseNumber s.toList with
  | some (text, []) => some (.number text)
  | _ => none

/-! ## Strings -/

/-- Whether a code unit is the first of a pair. -/
def isLeading (unit : Nat) : Bool := 0xD800 ≤ unit && unit < 0xDC00

/-- Whether a code unit is the second of a pair. -/
def isTrailing (unit : Nat) : Bool := 0xDC00 ≤ unit && unit < 0xE000

/-- The character of a pair of code units. -/
def pairChar (leading trailing : Nat) : Char :=
  Char.ofNat (0x10000 + (leading - 0xD800) * 0x400 + (trailing - 0xDC00))

/-- The code unit that four hexadecimal digits name. -/
def codeUnit? (a b c d : Char) : Option Nat := Text.hexNat 0 [a, b, c, d]

/-- The character that a letter behind a backslash stands for. -/
def plainEscape (c : Char) : Option Char :=
  if c = '"' then some '"'
  else if c = '\\' then some '\\'
  else if c = '/' then some '/'
  else if c = 'b' then some '\x08'
  else if c = 'f' then some '\x0c'
  else if c = 'n' then some '\n'
  else if c = 'r' then some '\r'
  else if c = 't' then some '\t'
  else none

/-- The characters of a string up to its closing quote, with what follows; `held` holds those
    read, in reverse. -/
def parseChars (held : List Char) : List Char → Option (String × List Char)
  | [] => none
  | '"' :: rest => some (String.ofList held.reverse, rest)
  | '\\' :: 'u' :: a :: b :: c :: d :: rest =>
    match codeUnit? a b c d with
    | none => none
    | some unit =>
      if isTrailing unit then none
      else if isLeading unit then
        match rest with
        | '\\' :: 'u' :: a :: b :: c :: d :: rest =>
          match codeUnit? a b c d with
          | none => none
          | some second =>
            if isTrailing second then parseChars (pairChar unit second :: held) rest else none
        | _ => none
      else parseChars (Char.ofNat unit :: held) rest
  | '\\' :: e :: rest =>
    match plainEscape e with
    | some c => parseChars (c :: held) rest
    | none => none
  | c :: rest => if c.toNat < 0x20 then none else parseChars (c :: held) rest

/-- A string behind its opening quote. -/
def parseString (cs : List Char) : Option (String × List Char) := parseChars [] cs

/-! ## Values -/

/-- Drop a word from the front of a text. -/
def dropWord? : List Char → List Char → Option (List Char)
  | [], cs => some cs
  | _ :: _, [] => none
  | w :: ws, c :: cs => if w = c then dropWord? ws cs else none

/-- The object of the members in the order read, or the number that it stands for. -/
def closeObject : List (String × Document) → Option Document
  | [(key, value)] =>
    if key = numberMarker then
      match value with
      | .string text => number? text
      | _ => none
    else some (ofMembers [(key, value)])
  | (key, value) :: rest =>
    if key = numberMarker then none else some (ofMembers ((key, value) :: rest))
  | [] => some emptyObject

mutual

/-- A value, with what follows. `depth` counts the containers that may still be opened, `fuel`
    bounds the number of steps. -/
def parseValue : Nat → Nat → List Char → Option (Document × List Char)
  | 0, _, _ => none
  | fuel + 1, depth, cs =>
    match skipBlank cs with
    | [] => none
    | '"' :: rest => (parseString rest).map (fun (s, rest) => (.string s, rest))
    | '[' :: rest =>
      match depth with
      | 0 => none
      | depth + 1 =>
        match skipBlank rest with
        | ']' :: rest => some (.array [], rest)
        | rest => parseItems fuel depth [] rest
    | '\x7b' :: rest =>
      match depth with
      | 0 => none
      | depth + 1 =>
        match skipBlank rest with
        | '\x7d' :: rest => some (emptyObject, rest)
        | rest => parseMembers fuel depth [] rest
    | 'n' :: rest => (dropWord? ['u', 'l', 'l'] rest).map (fun rest => (.null, rest))
    | 't' :: rest => (dropWord? ['r', 'u', 'e'] rest).map (fun rest => (.bool true, rest))
    | 'f' :: rest => (dropWord? ['a', 'l', 's', 'e'] rest).map (fun rest => (.bool false, rest))
    | c :: rest => (parseNumber (c :: rest)).map (fun (text, rest) => (.number text, rest))

/-- The items of an array up to its closing bracket; `held` holds those read, in reverse. -/
def parseItems : Nat → Nat → List Document → List Char → Option (Document × List Char)
  | 0, _, _, _ => none
  | fuel + 1, depth, held, cs =>
    match parseValue fuel depth cs with
    | none => none
    | some (item, rest) =>
      match skipBlank rest with
      | ',' :: rest => parseItems fuel depth (item :: held) rest
      | ']' :: rest => some (.array (item :: held).reverse, rest)
      | _ => none

/-- The members of an object up to its closing brace; `held` holds those read, in reverse. -/
def parseMembers :
    Nat → Nat → List (String × Document) → List Char → Option (Document × List Char)
  | 0, _, _, _ => none
  | fuel + 1, depth, held, cs =>
    match skipBlank cs with
    | '"' :: rest =>
      match parseString rest with
      | none => none
      | some (key, rest) =>
        match skipBlank rest with
        | ':' :: rest =>
          match parseValue fuel depth rest with
          | none => none
          | some (value, rest) =>
            match skipBlank rest with
            | ',' :: rest => parseMembers fuel depth ((key, value) :: held) rest
            | '\x7d' :: rest =>
              (closeObject ((key, value) :: held).reverse).map (fun d => (d, rest))
            | _ => none
        | _ => none
    | _ => none

end

/-- Read a whole text as one document; blanks may surround it. -/
def parse? (s : String) : Option Document :=
  let cs := s.toList
  match parseValue (2 * cs.length + 2) maxDepth cs with
  | some (d, rest) => if (skipBlank rest).isEmpty then some d else none
  | none => none

end Ferry.Document
