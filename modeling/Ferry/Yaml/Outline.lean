import Ferry.Text.Hex
import Ferry.Text.Basic
import Ferry.Yaml.Plain
import Ferry.Yaml.Source

set_option autoImplicit false

/-! # Writing YAML

An outline is what is written: words, texts, lists and fields. A text is written plain where it
reads back as that text, between single quotes where plain words would mean something else,
between double quotes where it has characters that need an escape, and as a block where it has
several lines. Fields are indented by two blanks; the items of a list in a field are not. -/

namespace Ferry.Yaml

/-- What is written. -/
inductive Outline
  /-- A word that is written as it stands, such as a number. -/
  | word (text : String)
  | text (value : String)
  | list (items : List Outline)
  | fields (entries : List (String × Outline))
deriving Inhabited

/-! ## What a text needs -/

/-- Whether a character is written as it is. -/
def isPrintable (c : Char) : Bool :=
  let n := c.toNat
  n == 0xA || (0x20 ≤ n && n ≤ 0x7E) || (0xA0 ≤ n && n ≤ 0xD7FF)
    || (0xE000 ≤ n && n ≤ 0xFFFD && n != 0xFEFF) || 0x10000 ≤ n

/-- Characters that may not begin a plain text. -/
def isIndicator (c : Char) : Bool := "#,[]\x7b\x7d&*!|>'\"%@\x60".toList.contains c

/-- Whether a text is empty or begins with a blank or a line break. -/
def beginsBlank : List Char → Bool
  | [] => true
  | c :: _ => isSpace c || isBreak c

/-- Whether the first character begins something other than a plain text. -/
def beginsIndicator : List Char → Bool
  | [] => false
  | c :: rest => isIndicator c || (['?', ':', '-'].contains c && beginsBlank rest)

/-- Whether a colon before a blank, or a number sign behind one, stands behind the first
    character; `previous` is the character in front. -/
def hasMark (previous : Char) : List Char → Bool
  | [] => false
  | c :: rest =>
    (c == ':' && beginsBlank rest) || (c == '#' && (isSpace previous || isBreak previous))
      || hasMark c rest

/-- Whether a text begins like a document marker. -/
def beginsMarker (cs : List Char) : Bool :=
  ['-', '-', '-'].isPrefixOf cs || ['.', '.', '.'].isPrefixOf cs

/-- Whether a character of the first kind stands right in front of one of the second. -/
def hasPair (p q : Char → Bool) : List Char → Bool
  | a :: b :: rest => (p a && q b) || hasPair p q (b :: rest)
  | _ => false

/-- Whether a character is a blank that counts in front of or behind a line break. -/
def isBlankChar (c : Char) : Bool := c == ' '

/-- What matters of a text for how it can be written. -/
structure TextShape where
  /-- It has characters that need an escape, or blanks in front of a line break. -/
  needsEscape : Bool
  /-- It has blanks behind a line break. -/
  indented : Bool
  hasBreak : Bool
  /-- It ends with a blank. -/
  endsBlank : Bool
  /-- It begins or ends with a blank or a line break. -/
  hasEdge : Bool
  /-- It has signs that mean something in a plain text. -/
  hasIndicator : Bool

/-- The shape of a text. -/
def TextShape.of (s : String) : TextShape :=
  let cs := s.toList
  let isEdge (c : Char) : Bool := isBlankChar c || isBreak c
  { needsEscape := !cs.all isPrintable || hasPair isBlankChar isBreak cs
    indented := hasPair isBreak isBlankChar cs
    hasBreak := cs.any isBreak
    endsBlank := cs.getLast?.any isBlankChar
    hasEdge := cs.head?.any isEdge || cs.getLast?.any isEdge
    hasIndicator :=
      beginsMarker cs || beginsIndicator cs || (cs.head?.any (fun c => hasMark c cs.tail)) }

/-- How a text is written. -/
inductive TextForm
  | plain
  | single
  | double
  | block
deriving DecidableEq, Repr

/-- Whether a text means itself when it is written plain. -/
def readsAsText (s : String) : Bool :=
  match Plain.meaning s with
  | .text => !Plain.hasNeedlessZero s
  | _ => false

/-- How a text is written. -/
def TextForm.of (s : String) : TextForm :=
  let shape := TextShape.of s
  if s.toList.contains '\n' then
    if shape.needsEscape || shape.endsBlank then .double else .block
  else if readsAsText s && !shape.needsEscape && !shape.indented && !shape.hasBreak
      && !shape.hasEdge && !shape.hasIndicator then .plain
  else if shape.needsEscape || shape.indented then .double
  else .single

/-! ## Texts -/

/-- The blanks in front of a line at an indentation. -/
def margin (indent : Nat) : String := Text.repeated ' ' indent

/-- A text between single quotes, each quote in it twice. Behind a line break the text goes on at
    an indentation. -/
def singleQuoted (indent : Nat) (s : String) : String :=
  "'" ++ String.ofList (go false s.toList) ++ "'"
where
  /-- `behindBreak` tells whether a line break is in front. -/
  go (behindBreak : Bool) : List Char → List Char
    | [] => if behindBreak then (margin indent).toList else []
    | c :: rest =>
      if isBreak c then c :: go true rest
      else
        (if behindBreak then (margin indent).toList else [])
          ++ (if c = '\'' then ['\'', '\''] else [c]) ++ go false rest

/-- The letter behind a backslash that stands for a character. -/
def escapeLetter? (c : Char) : Option Char :=
  match c with
  | '\x00' => some '0'
  | '\x07' => some 'a'
  | '\x08' => some 'b'
  | '\t' => some 't'
  | '\n' => some 'n'
  | '\x0b' => some 'v'
  | '\x0c' => some 'f'
  | '\r' => some 'r'
  | '\x1b' => some 'e'
  | '"' => some '"'
  | '\\' => some '\\'
  | '\u0085' => some 'N'
  | '\u00a0' => some '_'
  | '\u2028' => some 'L'
  | '\u2029' => some 'P'
  | _ => none

/-- The code of a character in hexadecimal, in the shortest of three lengths. -/
def codeEscape (c : Char) : List Char :=
  let n := c.toNat
  let (letter, width) := if n ≤ 0xFF then ('x', 2) else if n ≤ 0xFFFF then ('u', 4) else ('U', 8)
  '\\' :: letter :: (Text.hexDigits width n).map Char.toUpper

/-- A character between double quotes. -/
def doubleChar (c : Char) : List Char :=
  if isPrintable c && !isBreak c && c != '"' && c != '\\' then [c]
  else
    match escapeLetter? c with
    | some letter => ['\\', letter]
    | none => codeEscape c

/-- A text between double quotes. -/
def doubleQuoted (s : String) : String :=
  "\"" ++ String.ofList (s.toList.flatMap doubleChar) ++ "\""

/-- The sign behind the bar of a block that tells of its end: all line breaks there count, or the
    last is not there. -/
def endSign (s : String) : String :=
  match s.toList.reverse with
  | [] => "-"
  | [c] => if isBreak c then "+" else "-"
  | c :: d :: _ => if !isBreak c then "-" else if isBreak d then "+" else ""

/-- A text as a block of lines at an indentation. -/
def blockText (indent : Nat) (s : String) : String :=
  let hint := if s.toList.head?.any (fun c => isBlankChar c || isBreak c) then "2" else ""
  "|" ++ hint ++ endSign s ++ "\n" ++ String.ofList (go true s.toList)
where
  /-- `atStart` tells whether a line begins. -/
  go (atStart : Bool) : List Char → List Char
    | [] => []
    | c :: rest =>
      if isBreak c then c :: go true rest
      else (if atStart then (margin indent).toList else []) ++ c :: go false rest

/-- A text whose lines behind the first are at an indentation. -/
def textAt (indent : Nat) (s : String) : String :=
  match TextForm.of s with
  | .plain => s
  | .single => singleQuoted indent s
  | .double => doubleQuoted s
  | .block => blockText indent s

/-! ## Outlines -/

/-- Whether a key fits in front of a colon on one line. -/
def isSimpleKey (key : String) : Bool :=
  !key.toList.any isBreak && key.utf8ByteSize ≤ 128

/-- A key on one line: never as a block. -/
def simpleKey (key : String) : String := textAt 0 key

/-- Join lines; a line that ends with a line break of its own needs no further one. -/
def joinLines (indent : Nat) : List String → String
  | [] => ""
  | [s] => s
  | s :: t :: rest =>
    s ++ (if s.toList.getLast?.any isBreak then "" else "\n") ++ margin indent
      ++ joinLines indent (t :: rest)

namespace Outline

/-- Whether an outline is a list or fields with something inside. -/
def isOpen : Outline → Bool
  | list items => !items.isEmpty
  | fields entries => !entries.isEmpty
  | _ => false

mutual

/-- An outline whose first line is begun and whose other lines are at an indentation. -/
def textAt (indent : Nat) : Outline → String
  | word t => t
  | text s => Yaml.textAt (indent + 2) s
  | list [] => "[]"
  | list (o :: rest) => joinLines indent (itemTexts indent (o :: rest))
  | fields [] => "\x7b\x7d"
  | fields (e :: rest) => joinLines indent (entryTexts indent (e :: rest))

/-- The items of a list, each behind a hyphen. -/
def itemTexts (indent : Nat) : List Outline → List String
  | [] => []
  | o :: rest =>
    ("- " ++ (if o.isOpen then textAt (indent + 2) o else textAt indent o))
      :: itemTexts indent rest

/-- The entries of fields. -/
def entryTexts (indent : Nat) : List (String × Outline) → List String
  | [] => []
  | (key, o) :: rest =>
    let entry :=
      if isSimpleKey key then
        simpleKey key ++ ":"
          ++ (match o with
              | list (i :: is) => "\n" ++ margin indent ++ textAt indent (list (i :: is))
              | fields (e :: es) =>
                "\n" ++ margin (indent + 2) ++ textAt (indent + 2) (fields (e :: es))
              | o => " " ++ textAt indent o)
      else
        let head := "? " ++ Yaml.textAt (indent + 2) key
        joinLines indent
          [head, ": " ++ (if o.isOpen then textAt (indent + 2) o else textAt indent o)]
    entry :: entryTexts indent rest

end

/-- The whole text of an outline. -/
def write (o : Outline) : String :=
  let s := textAt 0 o
  if s.toList.getLast?.any isBreak then s else s ++ "\n"

end Outline

end Ferry.Yaml
