import Ferry.Calendar.Clock
import Ferry.Document.Printer
import Ferry.Number.Decimal
import Ferry.Number.DecimalNumeral
import Ferry.Number.FloatText
import Ferry.Text.Hex
import Ferry.Uuid

set_option autoImplicit false

/-! # Values

A value of a database column, as it passes from the source to the target. -/

namespace Ferry

open Number (Binary64 Decimal FloatStyle)

/-- A value of a column. -/
inductive Value
  | null
  | bool (value : Bool)
  /-- A whole number of up to eight bytes. -/
  | int (value : Int)
  | float (value : Binary64)
  | decimal (value : Decimal)
  | text (value : String)
  | bytes (value : List UInt8)
  | uuid (value : Uuid)
  /-- A point in time without a zone. -/
  | timestamp (value : Calendar.Moment)
  /-- A point in time in coordinated universal time. -/
  | timestampUtc (value : Calendar.Moment)
  | date (value : Calendar.Date)
  | time (value : Calendar.Clock)
  | json (value : Document)
deriving Inhabited

/-- The values of one row, in the order of the columns that were asked for. -/
abbrev Row := List Value

namespace Value

/-- Whether the value is the null value. A null document is not. -/
def isNull : Value → Bool
  | null => true
  | _ => false

/-- The value for people to read. -/
def display : Value → String
  | null => "NULL"
  | bool b => if b then "true" else "false"
  | int n => toString n
  | float x => FloatStyle.plain.text x
  | decimal d => d.text
  | text s => s
  | bytes b => "\\x" ++ Text.hexOfBytes b
  | uuid u => u.text
  | timestamp m => m.text
  | timestampUtc m => m.textUtc
  | date d => d.text
  | time t => t.text
  | json d => d.compact

/-- The number that a document's number text stands for: an integer of 64 bits when it is written
    as one, else a floating-point number, which is zero when there is none of its size. -/
def ofNumberText (numeral : String) : Value :=
  match Text.int64? numeral with
  | some n => int n
  | none =>
    match Number.DecimalNumeral.parse? numeral.toList with
    | some d => float (if d.toBinary64.isFinite then d.toBinary64 else default)
    | none => float default

/-- The value of a constant in a configuration: scalars become values of their kind, arrays and
    objects stay documents. -/
def ofLiteral : Document → Value
  | .null => null
  | .bool b => bool b
  | .number numeral => ofNumberText numeral
  | .string s => text s
  | .array items => json (.array items)
  | .object members => json (.object members)

/-- The given value, or null for none. -/
def ofOption {α : Type} (make : α → Value) : Option α → Value
  | some a => make a
  | none => null

end Value

end Ferry
