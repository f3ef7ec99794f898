import Ferry.Identifier
import Ferry.Value

set_option autoImplicit false

/-! # Writing rows as a statement

Rows are written by one `INSERT` with the values as literals. Text and documents are untyped
literals, which the database reads as whatever the column is; other values carry their type. A
text can contain anything: in its literal every single quote is doubled, and a backslash means
itself. -/

namespace Ferry

/-- Where and how rows are written. -/
structure WriteTarget where
  schema : String
  table : String
  /-- The columns, in the order of the values of a row. -/
  columns : List String
  /-- The columns that identify a row, when rows of a known key are to be overwritten. -/
  conflictKey : Option (List String)
deriving DecidableEq, Inhabited

namespace Sql

/-- A text between single quotes. -/
def quotedText (s : String) : String := "'" ++ Identifier.escapeLiteral s ++ "'"

/-- A text between single quotes that is read as a type. -/
def typedText (s type : String) : String := "'" ++ s ++ "'::" ++ type

/-- A floating-point literal; infinities and not-a-number have names. -/
def floatLiteral (x : Number.Binary64) : String :=
  if x.isNaN then typedText "NaN" "float8"
  else if x.isInfinite then typedText (if x.negative then "-Infinity" else "Infinity") "float8"
  else Number.FloatStyle.plain.text x

/-- The literal of a value. -/
def literal : Value → String
  | .null => "NULL"
  | .bool b => if b then "TRUE" else "FALSE"
  | .int n => toString n
  | .float x => floatLiteral x
  | .decimal d => typedText d.text "numeric"
  | .text s => quotedText s
  | .bytes b => typedText ("\\x" ++ Text.hexOfBytes b) "bytea"
  | .uuid u => typedText u.text "uuid"
  | .timestamp m => typedText m.textMicros "timestamp"
  | .timestampUtc m => typedText m.textInternet "timestamptz"
  | .date d => typedText d.text "date"
  | .time t => typedText t.textMicros "time"
  | .json d => quotedText d.compact

/-- The literals of a row between parentheses. -/
def tuple (row : Row) : String := "(" ++ Text.join ", " (row.map literal) ++ ")"

/-- The tuples of all rows, or an error for the first row that has not one value per column. -/
def tuples (target : WriteTarget) : List Row → Except MigrationError (List String)
  | [] => .ok []
  | row :: rest =>
    if row.length = target.columns.length then
      (tuples target rest).map (tuple row :: ·)
    else
      .error (.transfer target.table
        s!"row has {row.length} values for {target.columns.length} columns")

/-- An assignment of the value that could not be inserted. -/
def assignment (quoted : String) : String := quoted ++ " = EXCLUDED." ++ quoted

/-- What to do with a row whose key is there already: overwrite the columns outside the key. -/
def conflictClause (columns key : List String) : Except MigrationError String := do
  let updates ← Identifier.quoteEach (columns.filter (fun c => !key.contains c))
  let keyList ← Identifier.quoteList key
  let action :=
    if updates.isEmpty then " DO NOTHING"
    else " DO UPDATE SET " ++ Text.join ", " (updates.map assignment)
  return " ON CONFLICT (" ++ keyList ++ ")" ++ action

/-- The statement that writes the rows. -/
def insert (target : WriteTarget) (rows : List Row) : Except MigrationError String := do
  let values ← tuples target rows
  let table ← Identifier.qualify target.schema target.table
  let columns ← Identifier.quoteList target.columns
  let clause ←
    match target.conflictKey with
    | some key => conflictClause target.columns key
    | none => .ok ""
  return "INSERT INTO " ++ table ++ " (" ++ columns ++ ") VALUES " ++ Text.join ", " values
    ++ clause

end Sql

end Ferry
