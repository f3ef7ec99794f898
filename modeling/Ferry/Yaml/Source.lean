set_option autoImplicit false

/-! # Characters of a YAML text

The characters that matter to the structure of a text, and a place in a text: the characters that
are left, with the line and column at which they start. -/

namespace Ferry.Yaml

/-- Characters that end a line. -/
def isBreak (c : Char) : Bool :=
  c == '\n' || c == '\r' || c == '\u0085' || c == '\u2028' || c == '\u2029'

/-- Blanks inside a line. -/
def isSpace (c : Char) : Bool := c == ' ' || c == '\t'

/-- Letters, digits, underscore and hyphen, which make up names. -/
def isNameChar (c : Char) : Bool := c.isAlphanum || c == '_' || c == '-'

/-- Characters that may stand in a text at all. -/
def isAllowed (c : Char) : Bool :=
  let n := c.toNat
  n == 0x9 || n == 0xA || n == 0xD || (0x20 ≤ n && n ≤ 0x7E) || n == 0x85
    || (0xA0 ≤ n && n ≤ 0xD7FF) || (0xE000 ≤ n && n ≤ 0xFFFD) || 0x10000 ≤ n

/-- Whether a rest of text is empty or starts with a blank or the end of a line. -/
def endsWord : List Char → Bool
  | [] => true
  | c :: _ => isSpace c || isBreak c

/-- A place in a text. -/
structure Source where
  rest : List Char
  line : Nat
  column : Nat
  /-- The number of characters in front. -/
  index : Nat
  /-- The number of characters of the whole text. -/
  size : Nat
deriving Inhabited

namespace Source

/-- The start of a text. -/
def start (s : String) : Source := ⟨s.toList, 0, 0, 0, s.length⟩

/-- More steps than a reader can take that passes a character with each: what is left is no
    longer than the whole text. -/
def budget (s : Source) : Nat := s.size + 1

/-- The next character. -/
def next? (s : Source) : Option Char := s.rest.head?

/-- The place behind some characters of one line. -/
def skip (s : Source) (count : Nat) : Source :=
  { s with rest := s.rest.drop count, column := s.column + count, index := s.index + count }

/-- The place behind a line break. -/
def skipBreak (s : Source) : Source :=
  let count :=
    match s.rest with
    | '\r' :: '\n' :: _ => 2
    | _ => 1
  { s with rest := s.rest.drop count, line := s.line + 1, column := 0, index := s.index + count }

/-- What a line break counts as in a scalar: the Unicode separators stay, all else is a newline. -/
def breakChar (c : Char) : Char := if c == '\u2028' || c == '\u2029' then c else '\n'

/-- Whether the rest of the text is at the end of a word. -/
def atWordEnd (s : Source) : Bool := endsWord s.rest

/-- Whether a document marker, three hyphens or three points, stands at the start of a line. -/
def atMarker (s : Source) (mark : Char) : Bool :=
  s.column == 0 &&
    match s.rest with
    | a :: b :: c :: rest => a == mark && b == mark && c == mark && endsWord rest
    | _ => false

/-- Whether either document marker stands here. -/
def atAnyMarker (s : Source) : Bool := s.atMarker '-' || s.atMarker '.'

/-- The characters in front that have a property, with the place behind them. None of them may be
    a line break. -/
def span (s : Source) (p : Char → Bool) : List Char × Source :=
  let taken := s.rest.takeWhile p
  (taken, s.skip taken.length)

/-- The place behind the blanks in front. -/
def skipSpaces (s : Source) : Source := (s.span isSpace).2

/-- The place of the next line break, or of the end of the text. -/
def skipToBreak (s : Source) : Source := (s.span (fun c => !isBreak c)).2

/-- The place behind the line break that stands here, if one does. -/
def skipOptionalBreak (s : Source) : Source :=
  match s.rest with
  | c :: _ => if isBreak c then s.skipBreak else s
  | [] => s

end Source

end Ferry.Yaml
