import Ferry.Document.Parser
import Ferry.Error
import Ferry.Schema.DataType
import Ferry.Text.Blank
import Ferry.Value

set_option autoImplicit false

/-! # Adapting values

A value changes form on its way into a column of another kind. A document is written as its
canonical text, which is compact with the members of every object in order, so that one document
always gives the same bytes. Anything else that goes into a column of documents becomes one. -/

namespace Ferry

/-- The key under which text that is no JSON is kept. -/
def rawKey : String := "raw"

/-- The document that loose text becomes: the empty object for blank text, the document that it
    spells, or else an object around the text. -/
def promote (s : String) : Document :=
  if s.toList.all Text.isBlank then .emptyObject
  else (Document.parse? s).getD (.object [(rawKey, .string s)])

/-- Why a value has no document. -/
inductive AdaptIssue
  | notFinite (value : Number.Binary64)
  /-- The text of the number is no document. -/
  | unreadable (value : Number.Decimal)
  | binary

/-- The wording of an issue. What the reader of documents says is left out. -/
def AdaptIssue.message : AdaptIssue → String
  | .notFinite x => Number.FloatStyle.plain.text x ++ " has no JSON representation"
  | .unreadable n => "decimal " ++ n.text
  | .binary => "binary data cannot be stored in a JSON column"

namespace Value

/-- The document of a value that is not null. -/
def toDocument : Value → Except AdaptIssue Document
  | .null => .ok .null
  | .bool b => .ok (.bool b)
  | .int n => .ok (.ofInt n)
  | .float x =>
    if x.isFinite then .ok (.number (Number.FloatStyle.document.text x)) else .error (.notFinite x)
  | .decimal n =>
    match Document.parse? n.text with
    | some d => .ok d
    | none => .error (.unreadable n)
  | .text s => .ok (promote s)
  | .bytes _ => .error .binary
  | .json d => .ok d
  | v => .ok (.string v.display)

/-- The form of a value in a column of some kind; `column` only labels an error. -/
def adapt (v : Value) (kind : ColumnKind) (column : String) : Except MigrationError Value :=
  match v, kind with
  | .null, _ => .ok .null
  | .json d, _ => .ok (.text d.compact)
  | v, .structured =>
    match v.toDocument with
    | .ok d => .ok (.json d)
    | .error issue => .error (.adapt column issue.message)
  | v, _ => .ok v

end Value

end Ferry
