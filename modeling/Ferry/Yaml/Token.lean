import Ferry.Yaml.Scalar

set_option autoImplicit false

/-! # Tokens of a YAML text

`Token.scan` cuts a text into tokens. Indentation becomes tokens that open and close collections.
A colon may turn out to follow a key: the place of every scalar or bracket that could be one is
remembered, and the tokens that open the mapping and the key are put in front of it when the colon
is met. -/

namespace Ferry.Yaml

/-- A token. -/
inductive Token
  | versionDirective
  | tagDirective (handle start : String)
  | documentStart
  | documentEnd
  | blockSequenceStart
  | blockMappingStart
  | blockEnd
  | flowSequenceStart
  | flowSequenceEnd
  | flowMappingStart
  | flowMappingEnd
  | blockEntry
  | flowEntry
  | key
  | value
  | alias (name : String)
  | anchor (name : String)
  | tag (handle suffix : String)
  | scalar (text : String) (style : Style)
deriving DecidableEq, Inhabited, Repr

/-- A place where a key may have begun. -/
structure KeyPlace where
  /-- The number of tokens in front. -/
  number : Nat
  /-- Whether a key must stand here. -/
  required : Bool
  line : Nat
  column : Nat
  index : Nat

/-- What the scanner knows at a place of the text. -/
structure Scan where
  source : Source
  /-- The tokens so far, the last one first. -/
  tokens : List Token
  count : Nat
  /-- The column of the innermost block collection, minus one outside all of them. -/
  indent : Int
  outer : List Int
  /-- The possible key of the innermost brackets. -/
  place : Option KeyPlace
  /-- The possible keys around each pair of brackets, the innermost first. -/
  places : List (Option KeyPlace)
  /-- Whether a key may begin here. -/
  keyAllowed : Bool

namespace Scan

/-- Whether the place is between brackets. -/
def inFlow (s : Scan) : Bool := !s.places.isEmpty

/-- The column of the place. -/
def column (s : Scan) : Int := s.source.column

def push (s : Scan) (t : Token) : Scan := { s with tokens := t :: s.tokens, count := s.count + 1 }

/-- Put a token behind the first `number` ones. -/
def insertAt (s : Scan) (number : Nat) (t : Token) : Scan :=
  let behind := s.count - number
  { s with tokens := s.tokens.take behind ++ t :: s.tokens.drop behind, count := s.count + 1 }

/-! ## Indentation -/

/-- Close the block collections that are indented deeper than a column. -/
def unroll (column : Int) (indent : Int) (outer : List Int) (tokens : List Token) (count : Nat) :
    Int × List Int × List Token × Nat :=
  match outer with
  | [] => (indent, [], tokens, count)
  | o :: rest =>
    if column < indent then unroll column o rest (.blockEnd :: tokens) (count + 1)
    else (indent, o :: rest, tokens, count)

/-- Close the block collections that end in front of a column. -/
def unrollTo (s : Scan) (column : Int) : Scan :=
  if s.inFlow then s
  else
    let (indent, outer, tokens, count) := unroll column s.indent s.outer s.tokens s.count
    { s with indent := indent, outer := outer, tokens := tokens, count := count }

/-- Open a block collection at a column, unless one is open there already. -/
def roll (s : Scan) (column : Int) (number : Nat) (t : Token) : Scan :=
  if s.inFlow || column ≤ s.indent then s
  else { s.insertAt number t with indent := column, outer := s.indent :: s.outer }

/-! ## Possible keys -/

/-- Whether a possible key has been passed by: it fits on one line and is not too long. -/
def isStale (s : Scan) (p : KeyPlace) : Bool :=
  p.line < s.source.line || p.index + 1024 < s.source.index

/-- Forget a possible key; one that had to be a key is an error. -/
def dropPlace (p : Option KeyPlace) : Except String Unit :=
  match p with
  | some p => if p.required then .error "a key has no colon" else .ok ()
  | none => .ok ()

/-- Forget a possible key that has been passed by. -/
def refresh (s : Scan) (p : Option KeyPlace) : Except String (Option KeyPlace) :=
  match p with
  | some k => if s.isStale k then do dropPlace p; return none else .ok p
  | none => .ok none

/-- Forget all possible keys that have been passed by. -/
def refreshAll (s : Scan) : Except String Scan := do
  let place ← s.refresh s.place
  let places ← s.places.mapM s.refresh
  return { s with place := place, places := places }

/-- Forget the possible key of this level. -/
def removeKey (s : Scan) : Except String Scan := do
  dropPlace s.place
  return { s with place := none }

/-- Remember that a key may begin here. -/
def saveKey (s : Scan) : Except String Scan := do
  if s.keyAllowed then
    let s ← s.removeKey
    let required := !s.inFlow && s.indent == s.column
    return { s with
      place := some ⟨s.count, required, s.source.line, s.source.column, s.source.index⟩ }
  else return s

/-- The scan with the source moved on and keys allowed or not from there. -/
def moved (s : Scan) (source : Source) (keyAllowed : Bool) : Scan :=
  { s with source := source, keyAllowed := keyAllowed }

/-! ## Tokens one by one -/

/-- Document markers and brackets and the like: a token of some characters. -/
def mark (s : Scan) (t : Token) (length : Nat) (keyAllowed : Bool) : Scan :=
  (s.push t).moved (s.source.skip length) keyAllowed

/-- A document marker closes everything. -/
def documentMark (s : Scan) (t : Token) : Except String Scan := do
  let s ← (s.unrollTo (-1)).removeKey
  return s.mark t 3 false

/-- An opening bracket may begin a key, and begins a level of its own. -/
def openFlow (s : Scan) (t : Token) : Except String Scan := do
  let s ← s.saveKey
  let s := s.mark t 1 true
  return { s with place := none, places := s.place :: s.places }

/-- A closing bracket ends its level. -/
def closeFlow (s : Scan) (t : Token) : Except String Scan := do
  let s ← s.removeKey
  let s :=
    match s.places with
    | p :: rest => { s with place := p, places := rest }
    | [] => s
  return s.mark t 1 false

def flowEntry (s : Scan) : Except String Scan := do
  return (← s.removeKey).mark .flowEntry 1 true

/-- A hyphen in front of an item. -/
def blockEntry (s : Scan) : Except String Scan := do
  let s ←
    if s.inFlow then pure s
    else if s.keyAllowed then pure (s.roll s.column s.count .blockSequenceStart)
    else throw "an item of a sequence is out of place"
  return (← s.removeKey).mark .blockEntry 1 true

/-- A question mark in front of a key. -/
def explicitKey (s : Scan) : Except String Scan := do
  let s ←
    if s.inFlow then pure s
    else if s.keyAllowed then pure (s.roll s.column s.count .blockMappingStart)
    else throw "a key is out of place"
  return (← s.removeKey).mark .key 1 (!s.inFlow)

/-- A colon: behind a possible key it makes it one. -/
def valueMark (s : Scan) : Except String Scan :=
  match s.place with
  | some p =>
    let s := (s.insertAt p.number .key).roll p.column p.number .blockMappingStart
    .ok ({ s with place := none }.mark .value 1 false)
  | none =>
    if s.inFlow then .ok (s.mark .value 1 false)
    else if s.keyAllowed then
      .ok ((s.roll s.column s.count .blockMappingStart).mark .value 1 true)
    else .error "a value is out of place"

/-- An anchor or an alias: a name behind a sign. -/
def named (s : Scan) (make : String → Token) : Except String Scan := do
  let s ← s.saveKey
  let (name, source) := (s.source.skip 1).span isNameChar
  let ended :=
    match source.rest with
    | [] => true
    | c :: _ => source.atWordEnd || ['?', ':', ',', ']', '\x7d', '%', '@', '\x60'].contains c
  if name.isEmpty || !ended then throw "a name is missing or ends badly"
  return (s.push (make (String.ofList name))).moved source false

/-- Characters that may stand in a tag. -/
def isTagChar (verbatim : Bool) (c : Char) : Bool :=
  isNameChar c || (";/?:@&=+$.%!~*'()".toList.contains c)
    || (verbatim && (c == ',' || c == '[' || c == ']'))

/-- The bytes that a tag writes with percent signs, as characters. -/
def tagText (cs : List Char) : Except String String :=
  let rec bytes : List Char → Option (List UInt8)
    | [] => some []
    | '%' :: a :: b :: rest => do
      let byte ← Text.hexNat 0 [a, b]
      let more ← bytes rest
      return UInt8.ofNat byte :: more
    | '%' :: _ => none
    | c :: rest => (bytes rest).map ((String.singleton c).toUTF8.toList ++ ·)
  match bytes cs with
  | none => .error "a tag has a bad escape"
  | some bs =>
    match String.fromUTF8? ⟨bs.toArray⟩ with
    | some text => .ok text
    | none => .error "a tag has a bad escape"

/-- A tag: verbatim between angle brackets, or a handle and a suffix. -/
def tagMark (s : Scan) : Except String Scan := do
  let s ← s.saveKey
  let (handle, suffix, source) ←
    match s.source.rest with
    | '!' :: '<' :: _ =>
      let (text, source) := (s.source.skip 2).span (isTagChar true)
      if text.isEmpty || source.next? != some '>' then throw "a tag is not closed"
      pure ("", ← tagText text, source.skip 1)
    | _ =>
      let (name, source) := (s.source.skip 1).span isNameChar
      if source.next? == some '!' then
        let handle := "!" ++ String.ofList name ++ "!"
        let (text, source) := (source.skip 1).span (isTagChar false)
        if text.isEmpty then throw "a tag has no suffix"
        pure (handle, ← tagText text, source)
      else
        let (text, source) := source.span (isTagChar false)
        let suffix ← tagText (name ++ text)
        if suffix.isEmpty then pure ("", "!", source) else pure ("!", suffix, source)
  if !source.atWordEnd && !(s.inFlow && source.next? == some ',') then
    throw "a tag ends badly"
  return (s.push (.tag handle suffix)).moved source false

def blockScalar (s : Scan) (literal : Bool) : Except String Scan := do
  let s ← s.removeKey
  let (text, source) ← readBlock literal s.indent (s.source.skip 1)
  let style : Style := if literal then .literal else .folded
  return (s.push (.scalar (String.ofList text) style)).moved source true

def quotedScalar (s : Scan) (single : Bool) : Except String Scan := do
  let s ← s.saveKey
  let (text, source) ← readQuoted single s.source.budget [] (s.source.skip 1)
  return (s.push (.scalar (String.ofList text) .quoted)).moved source false

def plainScalar (s : Scan) : Except String Scan := do
  let s ← s.saveKey
  let r ← readPlain s.inFlow (s.indent + 1) s.source.budget [] ⟨[], []⟩ s.source
  return (s.push (.scalar (String.ofList r.text) .plain)).moved r.source r.lineEnded

/-- The version of a directive line: one point one, or one point two. -/
def version (source : Source) : Except String Source := do
  let number (source : Source) : Except String (Option Nat × Source) :=
    let (digits, source) := source.span Char.isDigit
    if digits.length ≤ 9 then .ok ((String.ofList digits).toNat?, source)
    else .error "a version is too long"
  let (major, source) ← number source
  if source.next? != some '.' then throw "a version is not known"
  let (minor, source) ← number (source.skip 1)
  if major == some 1 && (minor == some 1 || minor == some 2) then return source
  throw "a version is not known"

/-- The handle and the start of tags of a directive line. -/
def tagStart (source : Source) : Except String (String × String × Source) := do
  if source.next? != some '!' then throw "a tag directive has no handle"
  let (name, source) := (source.skip 1).span isNameChar
  let (handle, source) ←
    if source.next? == some '!' then pure ("!" ++ String.ofList name ++ "!", source.skip 1)
    else if name.isEmpty then pure ("!", source)
    else throw "a tag directive has no handle"
  if !(source.next?.any isSpace) then throw "a tag directive is incomplete"
  let (start, source) := source.skipSpaces.span (isTagChar true)
  if start.isEmpty then throw "a tag directive is incomplete"
  return (handle, ← tagText start, source)

/-- A directive line: a version, or a handle for tags. -/
def directive (s : Scan) : Except String Scan := do
  let s ← (s.unrollTo (-1)).removeKey
  let (name, source) := (s.source.skip 1).span isNameChar
  if name.isEmpty || !source.atWordEnd then throw "a directive has no name"
  let source := source.skipSpaces
  let (token, source) ←
    if name == "YAML".toList then pure (Token.versionDirective, ← version source)
    else if name == "TAG".toList then
      let (handle, start, source) ← tagStart source
      pure (Token.tagDirective handle start, source)
    else throw "a directive is not known"
  if !source.atWordEnd then throw "a directive ends badly"
  let source := source.skipSpaces
  let source := if source.next? == some '#' then source.skipToBreak else source
  if !(source.rest.isEmpty || (source.next?.any isBreak)) then throw "a directive ends badly"
  return (s.push token).moved source.skipOptionalBreak false

/-! ## The whole text -/

/-- Move to the next token: over blanks, comments and line breaks. A new line outside brackets may
    begin with a key. At most `fuel` lines are passed. -/
def toNextToken : Nat → Scan → Scan
  | 0, s => s
  | fuel + 1, s =>
    let tabs := s.inFlow || !s.keyAllowed
    let source :=
      if s.source.column == 0 && s.source.next? == some '\ufeff' then s.source.skip 1 else s.source
    let (_, source) := source.span (fun c => c == ' ' || (tabs && c == '\t'))
    let source := if source.next? == some '#' then source.skipToBreak else source
    match source.rest with
    | c :: _ =>
      if isBreak c then
        toNextToken fuel
          { s with source := source.skipBreak, keyAllowed := s.keyAllowed || !s.inFlow }
      else { s with source := source }
    | [] => { s with source := source }

/-- Whether a plain scalar may begin with these characters. -/
def beginsPlain (inFlow : Bool) (c : Char) (rest : List Char) : Bool :=
  if "-?:,[]\x7b\x7d#&*!|>'\"%@\x60".toList.contains c then
    (c == '-' && !(rest.head?.any isSpace))
      || (!inFlow && (c == '?' || c == ':') && !endsWord rest)
  else !(isSpace c || isBreak c)

/-- Read the token that stands here. -/
def nextToken (s : Scan) : Except String Scan :=
  match s.source.rest with
  | [] => .ok s
  | c :: rest =>
    if s.source.column == 0 && c == '%' then s.directive
    else if s.source.atMarker '-' then s.documentMark .documentStart
    else if s.source.atMarker '.' then s.documentMark .documentEnd
    else if c == '[' then s.openFlow .flowSequenceStart
    else if c == '\x7b' then s.openFlow .flowMappingStart
    else if c == ']' then s.closeFlow .flowSequenceEnd
    else if c == '\x7d' then s.closeFlow .flowMappingEnd
    else if c == ',' then s.flowEntry
    else if c == '-' && endsWord rest then s.blockEntry
    else if c == '?' && (s.inFlow || endsWord rest) then s.explicitKey
    else if c == ':' && (s.inFlow || endsWord rest) then s.valueMark
    else if c == '*' then s.named .alias
    else if c == '&' then s.named .anchor
    else if c == '!' then s.tagMark
    else if c == '|' && !s.inFlow then s.blockScalar true
    else if c == '>' && !s.inFlow then s.blockScalar false
    else if c == '\'' then s.quotedScalar true
    else if c == '"' then s.quotedScalar false
    else if beginsPlain s.inFlow c rest then s.plainScalar
    else .error "a character begins no token"

/-- Read all tokens; each takes at least one of the `fuel` characters. -/
def all : Nat → Scan → Except String Scan
  | 0, s => .ok s
  | fuel + 1, s => do
    let s ← (toNextToken s.source.budget s).refreshAll
    let s := s.unrollTo s.column
    if s.source.rest.isEmpty then return s
    all fuel (← s.nextToken)

end Scan

/-- The tokens of a text. -/
def Token.scan (text : String) : Except String (List Token) := do
  if !text.toList.all isAllowed then throw "a control character stands in the text"
  let s ← Scan.all (text.length + 1) ⟨Source.start text, [], 0, -1, [], none, [], true⟩
  let s ← (s.unrollTo (-1)).removeKey
  return s.tokens.reverse

end Ferry.Yaml
