import Ferry.Document.Parser
import Ferry.Number.FloatText
import Ferry.Yaml.Node
import Ferry.Yaml.Plain

set_option autoImplicit false

/-! # Data of YAML nodes

The value that a node stands for where any value may stand. A tag of the core set decides for a
scalar; without one the words of a plain scalar do. A tag of one's own stands for no value. -/

namespace Ferry.Yaml

open Number (Binary64 FloatStyle)

/-- A value. The keys of a mapping are values too. -/
inductive Data
  | null
  | bool (value : Bool)
  /-- A whole number of 64 bits, with or without sign. -/
  | int (value : Int)
  | float (value : Binary64)
  | string (value : String)
  | sequence (items : List Data)
  | mapping (entries : List (Data × Data))
deriving Inhabited

namespace Data

/-- The full form of a tag of the core set. -/
def coreTag (name : String) : String := "tag:yaml.org,2002:" ++ name

/-- Whether a tag is one of its own, outside every set. -/
def isOwnTag (tag : String) : Bool := tag.toList.head? == some '!'

/-- The value of a whole number. -/
def ofInt (n : Int) : Except String Data :=
  if Text.inInt64 n || Text.inUInt64 n then .ok (.int n)
  else .error "a whole number does not fit 64 bits"

/-- The value of a plain scalar without a tag. -/
def ofPlain (text : String) : Except String Data :=
  match Plain.meaning text with
  | .null => .ok .null
  | .bool b => .ok (.bool b)
  | .int n => ofInt n
  | .float x => .ok (.float x)
  | .text => .ok (.string text)

/-- The value of a scalar. -/
def ofScalar (tag text : String) (style : Style) : Except String Data :=
  if tag.isEmpty then if style = .plain then ofPlain text else .ok (.string text)
  else if isOwnTag tag then .error "a tag stands for no value"
  else if tag = coreTag "bool" then
    match Plain.bool? text with
    | some b => .ok (.bool b)
    | none => .error "a tagged scalar is no truth value"
  else if tag = coreTag "int" then
    match (Plain.int? text).filter Plain.isCounted with
    | some n => ofInt n
    | none => .error "a tagged scalar is no whole number"
  else if tag = coreTag "float" then
    match Plain.float? text with
    | some x => .ok (.float x)
    | none => .error "a tagged scalar is no number"
  else if tag = coreTag "null" then
    if Plain.isNullWord text then .ok .null else .error "a tagged scalar is not null"
  else .ok (.string text)

/-- Refuse a tag of one's own on a collection. -/
def checkTag (tag : String) : Except String Unit :=
  if isOwnTag tag then .error "a tag stands for no value" else .ok ()

/-- One level less for the inside of a collection. -/
def enter (room : Nat) : Except String Nat :=
  match room with
  | 0 => .error "collections are nested too deeply"
  | n + 1 => .ok n

mutual

/-- The value of a node with at most `room` collections inside each other. -/
def ofNode (room : Nat) : Node → Except String Data
  | .scalar tag text style => ofScalar tag text style
  | .sequence tag items => do
    checkTag tag
    return .sequence (← ofItems (← enter room) items)
  | .mapping tag entries => do
    checkTag tag
    return .mapping (← ofEntries (← enter room) entries)

/-- The values of the items of a sequence. -/
def ofItems (room : Nat) : List Node → Except String (List Data)
  | [] => .ok []
  | n :: rest => do return (← ofNode room n) :: (← ofItems room rest)

/-- The values of the entries of a mapping. -/
def ofEntries (room : Nat) : List (Node × Node) → Except String (List (Data × Data))
  | [] => .ok []
  | (k, v) :: rest => do return ((← ofNode room k), (← ofNode room v)) :: (← ofEntries room rest)

end

/-! ## Documents -/

/-- A text. -/
def string? : Data → Option String
  | .string s => some s
  | _ => none

/-- The document of a floating-point number; there is none for infinity and the like but null. -/
def floatDocument (x : Binary64) : Document :=
  if x.isFinite then .number (FloatStyle.document.text x) else .null

mutual

/-- The document that says the same. The keys of an object are texts. -/
def document? : Data → Option Document
  | .null => some .null
  | .bool b => some (.bool b)
  | .int n => some (.ofInt n)
  | .float x => some (floatDocument x)
  | .string s => some (.string s)
  | .sequence items => (documents? items).map .array
  | .mapping entries => do Document.closeObject (← members? entries)

/-- The documents of the items of a sequence. -/
def documents? : List Data → Option (List Document)
  | [] => some []
  | d :: rest => do return (← document? d) :: (← documents? rest)

/-- The members of an object, in order. -/
def members? : List (Data × Data) → Option (List (String × Document))
  | [] => some []
  | (k, v) :: rest => do return (← string? k, ← document? v) :: (← members? rest)

end

end Data

end Ferry.Yaml
