import Ferry.Text.Hex
import Ferry.Yaml.Source

set_option autoImplicit false

/-! # Scalars of a YAML text

The ways to write a scalar: plain, between single or double quotes, and as an indented block. All
but the block fold lines: a line break becomes a blank, and each further break stays. -/

namespace Ferry.Yaml

/-- How a scalar is written. -/
inductive Style
  | plain
  | quoted
  | literal
  | folded
deriving DecidableEq, Inhabited, Repr

/-- A line break followed by others, folded. -/
def foldBreaks : List Char → List Char
  | ['\n'] => [' ']
  | '\n' :: rest => rest
  | breaks => breaks

/-- Blanks and line breaks between the words of a scalar. -/
structure Gap where
  /-- Blanks in front of the first line break. -/
  spaces : List Char
  breaks : List Char

/-- The text of a gap: its blanks, or its line breaks folded. -/
def Gap.text (g : Gap) : List Char := if g.breaks.isEmpty then g.spaces else foldBreaks g.breaks

/-- Read blanks and line breaks. In front of column `indent` of a later line no tab may stand.
    At most `fuel` of them are read. -/
def readGap (indent : Int) : Nat → Gap → Source → Except String (Gap × Source)
  | 0, g, s => .ok (g, s)
  | fuel + 1, g, s =>
    match s.rest with
    | [] => .ok (g, s)
    | c :: _ =>
      if isSpace c then
        if g.breaks.isEmpty then readGap indent fuel { g with spaces := g.spaces ++ [c] } (s.skip 1)
        else if (s.column : Int) < indent && c == '\t' then
          .error "a tab stands where a scalar is indented"
        else readGap indent fuel g (s.skip 1)
      else if isBreak c then
        readGap indent fuel { g with breaks := g.breaks ++ [Source.breakChar c] } s.skipBreak
      else .ok (g, s)

/-! ## Plain scalars -/

/-- Whether a plain scalar goes on at this character, in or outside brackets. -/
def plainGoesOn (inFlow : Bool) (c : Char) (rest : List Char) : Bool :=
  !(c == ':' && endsWord rest)
    && !(inFlow && (c == ',' || c == '[' || c == ']' || c == '\x7b' || c == '\x7d'))

/-- Whether a colon and this character behind it are forbidden in brackets. -/
def forbiddenAfterColon : List Char → Bool
  | c :: _ => c == ',' || c == '?' || c == '[' || c == ']' || c == '\x7b' || c == '\x7d'
  | [] => false

/-- The characters of a plain scalar up to a blank, a line break or its end. -/
def plainWord (inFlow : Bool) : List Char → Except String (List Char)
  | [] => .ok []
  | c :: rest =>
    if isSpace c || isBreak c then .ok []
    else if inFlow && c == ':' && forbiddenAfterColon rest then .error "a colon is out of place"
    else if plainGoesOn inFlow c rest then (plainWord inFlow rest).map (c :: ·)
    else .ok []

/-- A scalar that was read: its text, the place behind it, and whether a line break is in front
    of that place. -/
structure PlainRead where
  text : List Char
  source : Source
  lineEnded : Bool

/-- Read the words of a plain scalar; `gap` stands in front of the next one. The lines after the
    first are indented to column `indent` at least, except in brackets. -/
def readPlain (inFlow : Bool) (indent : Int) :
    Nat → List Char → Gap → Source → Except String PlainRead
  | 0, text, gap, s => .ok ⟨text, s, !gap.breaks.isEmpty⟩
  | fuel + 1, text, gap, s =>
    if s.atAnyMarker || s.next? == some '#' then .ok ⟨text, s, !gap.breaks.isEmpty⟩
    else do
      let word ← plainWord inFlow s.rest
      if word.isEmpty then return ⟨text, s, !gap.breaks.isEmpty⟩
      let text := text ++ gap.text ++ word
      let s := s.skip word.length
      match s.rest with
      | [] => return ⟨text, s, false⟩
      | c :: _ =>
        if isSpace c || isBreak c then
          let (gap, s) ← readGap indent s.budget ⟨[], []⟩ s
          if !inFlow && (s.column : Int) < indent then
            return ⟨text, s, !gap.breaks.isEmpty⟩
          readPlain inFlow indent fuel text gap s
        else return ⟨text, s, false⟩

/-! ## Quoted scalars -/

/-- The character of a backslash and one letter. -/
def plainEscape? (c : Char) : Option Char :=
  match c with
  | '0' => some '\x00'
  | 'a' => some '\x07'
  | 'b' => some '\x08'
  | 't' => some '\t'
  | '\t' => some '\t'
  | 'n' => some '\n'
  | 'v' => some '\x0b'
  | 'f' => some '\x0c'
  | 'r' => some '\r'
  | 'e' => some '\x1b'
  | ' ' => some ' '
  | '"' => some '"'
  | '/' => some '/'
  | '\\' => some '\\'
  | 'N' => some '\u0085'
  | '_' => some '\u00a0'
  | 'L' => some '\u2028'
  | 'P' => some '\u2029'
  | _ => none

/-- The number of hexadecimal digits behind a backslash and one letter. -/
def codeLength? (c : Char) : Option Nat :=
  match c with
  | 'x' => some 2
  | 'u' => some 4
  | 'U' => some 8
  | _ => none

/-- The character of a backslash and what follows it, and the number of characters of that. -/
def escape? (c : Char) (rest : List Char) : Option (Char × Nat) :=
  match plainEscape? c with
  | some e => some (e, 1)
  | none =>
    match codeLength? c with
    | none => none
    | some count =>
      let digits := rest.take count
      match Text.hexNat 0 digits with
      | none => none
      | some n =>
        if digits.length = count ∧ (n < 0xD800 ∨ (0xE000 ≤ n ∧ n ≤ 0x10FFFF)) then
          some (Char.ofNat n, count + 1)
        else none

/-- Where the reading of a quoted word stopped. -/
inductive WordEnd
  /-- At a blank, a line break, the closing quote or the end of the text. -/
  | here
  /-- At a line break that a backslash removes. -/
  | escapedBreak

/-- The characters of a quoted scalar up to a blank, a line break or its closing quote, with the
    number of characters that they take up. -/
def quotedWord (single : Bool) : Nat → List Char → Except String (List Char × Nat × WordEnd)
  | 0, _ => .ok ([], 0, .here)
  | fuel + 1, cs =>
    let more (c : Char) (count : Nat) : Except String (List Char × Nat × WordEnd) := do
      let (text, taken, stop) ← quotedWord single fuel (cs.drop count)
      return (c :: text, taken + count, stop)
    match cs with
    | [] => .ok ([], 0, .here)
    | c :: rest =>
      if isSpace c || isBreak c then .ok ([], 0, .here)
      else if single then
        if c == '\'' then
          match rest with
          | '\'' :: _ => more '\'' 2
          | _ => .ok ([], 0, .here)
        else more c 1
      else if c == '"' then .ok ([], 0, .here)
      else if c == '\\' then
        match rest with
        | [] => .error "a quoted scalar is not closed"
        | e :: digits =>
          if isBreak e then .ok ([], 1, .escapedBreak)
          else
            match escape? e digits with
            | some (d, count) => more d (count + 1)
            | none => .error "an escape is not known"
      else more c 1

/-- Read a quoted scalar behind its opening quote. -/
def readQuoted (single : Bool) : Nat → List Char → Source → Except String (List Char × Source)
  | 0, _, _ => .error "a quoted scalar is not closed"
  | fuel + 1, text, s =>
    if s.atAnyMarker then .error "a document marker stands in a quoted scalar"
    else do
      let (word, taken, stop) ← quotedWord single s.budget s.rest
      let s := s.skip taken
      let text := text ++ word
      match stop with
      | .escapedBreak =>
        let (gap, s) ← readGap 0 s.budget ⟨[], ['\x00']⟩ s.skipBreak
        readQuoted single fuel (text ++ gap.breaks.drop 1) s
      | .here =>
        match s.rest with
        | [] => .error "a quoted scalar is not closed"
        | c :: _ =>
          if c == (if single then '\'' else '"') then return (text, s.skip 1)
          let (gap, s) ← readGap 0 s.budget ⟨[], []⟩ s
          readQuoted single fuel (text ++ gap.text) s

/-! ## Block scalars -/

/-- What becomes of the line breaks at the end of a block. -/
inductive Chomping
  | strip
  | clip
  | keep
deriving DecidableEq

/-- The signs of a block header: how its end is treated, and a digit of indentation. -/
structure BlockHeader where
  chomping : Chomping
  increment : Option Nat

/-- The chomping that a sign stands for. -/
def chomping? (c : Char) : Option Chomping :=
  if c == '+' then some .keep else if c == '-' then some .strip else none

/-- The indentation that a digit stands for; zero is refused. -/
def increment? (c : Char) : Except String (Option Nat) :=
  if c == '0' then .error "a block scalar is indented by zero"
  else if c.isDigit then .ok (some (c.toNat - '0'.toNat))
  else .ok none

/-- Read the signs of a block header in either order. -/
def blockHeader (cs : List Char) : Except String (BlockHeader × Nat) :=
  match cs with
  | [] => .ok (⟨.clip, none⟩, 0)
  | a :: rest =>
    match chomping? a with
    | some chomping =>
      match rest with
      | [] => .ok (⟨chomping, none⟩, 1)
      | b :: _ => do
        let increment ← increment? b
        return (⟨chomping, increment⟩, if increment.isSome then 2 else 1)
    | none => do
      let increment ← increment? a
      if increment.isNone then return (⟨.clip, none⟩, 0)
      match rest with
      | [] => return (⟨.clip, increment⟩, 1)
      | b :: _ =>
        match chomping? b with
        | some chomping => return (⟨chomping, increment⟩, 2)
        | none => return (⟨.clip, increment⟩, 1)

/-- Read empty lines of a block and the indentation of the line behind them. With no known
    indentation the deepest one seen is answered. -/
def blockBreaks (indent : Option Nat) :
    Nat → Nat → List Char → Source → Except String (Nat × List Char × Source)
  | 0, deepest, breaks, s => .ok (deepest, breaks, s)
  | fuel + 1, deepest, breaks, s =>
    let blanks := (s.rest.takeWhile (· == ' ')).length
    let count :=
      match indent with
      | none => blanks
      | some n => min blanks (n - s.column)
    let s := s.skip count
    let deepest := max deepest s.column
    let shallow :=
      match indent with
      | none => true
      | some n => decide (s.column < n)
    match s.rest with
    | [] => .ok (deepest, breaks, s)
    | c :: _ =>
      if shallow && c == '\t' then .error "a tab stands where a block scalar is indented"
      else if isBreak c then
        blockBreaks indent fuel deepest (breaks ++ [Source.breakChar c]) s.skipBreak
      else .ok (deepest, breaks, s)

/-- What has been read of a block: its text, the line break behind its last line, and the empty
    lines after that. -/
structure BlockRead where
  text : List Char
  ending : List Char
  empties : List Char
  /-- Whether the last line starts with a blank. -/
  blankLine : Bool
  source : Source

/-- Read the lines of a block that are indented to column `indent`. -/
def blockLines (literal : Bool) (indent : Nat) : Nat → BlockRead → Except String BlockRead
  | 0, b => .ok b
  | fuel + 1, b =>
    match b.source.rest with
    | [] => .ok b
    | c :: _ =>
      if b.source.column ≠ indent then .ok b
      else do
        let blank := isSpace c
        let folds := !literal && b.ending == ['\n'] && !b.blankLine && !blank
        let joint :=
          if folds then (if b.empties.isEmpty then [' '] else b.empties) else b.ending ++ b.empties
        let (line, s) := b.source.span (fun c => !isBreak c)
        let ending := (s.rest.head?.map (fun c => [Source.breakChar c])).getD []
        let s := s.skipOptionalBreak
        let (_, empties, s) ← blockBreaks (some indent) s.budget 0 [] s
        blockLines literal indent fuel ⟨b.text ++ joint ++ line, ending, empties, blank, s⟩

/-- Read a block scalar behind its indicator; `parent` is the indentation around it. -/
def readBlock (literal : Bool) (parent : Int) (s : Source) :
    Except String (List Char × Source) := do
  let (header, count) ← blockHeader s.rest
  let s := (s.skip count).skipSpaces
  let s := if s.next? == some '#' then s.skipToBreak else s
  match s.rest with
  | c :: _ => if !isBreak c then throw "a block scalar starts on the line of its indicator"
  | [] => pure ()
  let s := s.skipOptionalBreak
  let outer := parent.toNat
  let known := header.increment.map (fun n => if 0 ≤ parent then outer + n else n)
  let (deepest, empties, s) ← blockBreaks known s.budget 0 [] s
  let indent := known.getD (max (max deepest (parent + 1).toNat) 1)
  let b ← blockLines literal indent s.budget ⟨[], [], empties, false, s⟩
  let text :=
    match header.chomping with
    | .strip => b.text
    | .clip => b.text ++ b.ending
    | .keep => b.text ++ b.ending ++ b.empties
  return (text, b.source)

end Ferry.Yaml
