import Ferry.Config.Basic
import Ferry.Schema.Table
import Ferry.Text.Basic
import Ferry.Value

set_option autoImplicit false

/-! # Plans

A plan says for one table which source columns feed which target columns, which target columns
are filled in another way, and how rows are written. A table whose columns agree on both sides
has a plan that copies every column; any other table needs an entry that maps its columns. -/

namespace Ferry

/-- Where the value of a filled column comes from. -/
inductive Filling
  /-- The same value for every row. -/
  | literal (value : Value)
  /-- Another column of the same source row, or the fallback where that is null. -/
  | column (name : String) (fallback : Value)
deriving Inhabited

/-- The value that is written where no column gives one. -/
def Filling.constant : Filling → Value
  | literal value => value
  | column _ fallback => fallback

/-- The source column that is read for a filling. -/
def Filling.reads? : Filling → Option String
  | literal _ => none
  | column name _ => some name

/-- A target column that is filled. -/
structure Binding where
  target : String
  filling : Filling
deriving Inhabited

/-- The value at the first place where `name` stands among the columns of a row. -/
def valueAt? (name : String) : List String → Row → Option Value
  | c :: cs, v :: vs => if c = name then some v else valueAt? name cs vs
  | _, _ => none

/-- The value that a binding gives for a row of the columns read. -/
def Binding.resolve (b : Binding) (readColumns : List String) (row : Row) : Value :=
  match b.filling with
  | .literal value => value
  | .column name fallback =>
    match valueAt? name readColumns row with
    | some value => if value.isNull then fallback else value
    | none => fallback

/-- The plan of one table. -/
structure Plan where
  /-- The name of the table. -/
  table : String
  /-- Copied columns, paired by place with `targetColumns`. -/
  sourceColumns : List String
  targetColumns : List String
  /-- Target columns that are filled. -/
  bindings : List Binding
  /-- The columns that identify a row when rows are merged. -/
  conflictKey : List String
  mode : WriteMode
deriving Inhabited

namespace Plan

/-! ## Making plans -/

/-- Copy every column, in place of what the target holds. -/
def straight (source : Table) : Plan where
  table := source.name
  sourceColumns := source.columnNames
  targetColumns := source.columnNames
  bindings := []
  conflictKey := source.primaryKey
  mode := .replace

/-- The binding of a constant of a configuration. -/
def bindingOf (constant : String × Constant) : Binding where
  target := constant.1
  filling :=
    match constant.2 with
    | .value d => .literal (Value.ofLiteral d)
    | .column name fallback => .column name ((fallback.map Value.ofLiteral).getD .null)

/-- The plan of an entry. An entry that maps columns merges unless it says otherwise; any other
    copies straight. The conflict key is that of the entry, or else the target's primary key. -/
def ofEntry (entry : Entry) (source target : Table) : Plan :=
  let key := if entry.conflictKey.isEmpty then target.primaryKey else entry.conflictKey
  if entry.isAuthored then
    { table := entry.table
      sourceColumns := entry.columns.map ColumnPair.source
      targetColumns := entry.columns.map ColumnPair.target
      bindings := entry.constants.map bindingOf
      conflictKey := key
      mode := entry.mode.getD .merge }
  else
    { straight source with conflictKey := key, mode := entry.mode.getD .replace }

/-! ## What a plan reads and writes -/

/-- Append a name that is not among the others yet. -/
def addName (names : List String) (name : String) : List String :=
  if names.contains name then names else names ++ [name]

/-- The source columns that are read: the copied ones, then any other that a binding reads. -/
def readColumns (p : Plan) : List String :=
  (p.bindings.filterMap (·.filling.reads?)).foldl addName p.sourceColumns

/-- The target columns that are written: the copied ones, then the filled ones. -/
def writeColumns (p : Plan) : List String := p.targetColumns ++ p.bindings.map (·.target)

/-- The key by which rows are merged; none when the table is replaced. -/
def upsertKey (p : Plan) : Option (List String) :=
  match p.mode with
  | .merge => some p.conflictKey
  | .replace => none

/-- The row to write for a row of the columns read. -/
def project (p : Plan) (readColumns : List String) (row : Row) : Row :=
  row.take p.sourceColumns.length ++ p.bindings.map (fun b => b.resolve readColumns row)

/-- The plan on one line. -/
def describe (p : Plan) : String :=
  p.mode.text ++ " " ++ toString (p.targetColumns.length + p.bindings.length) ++ " column(s)"
    ++ (if p.bindings.isEmpty then ""
        else ", synthesized: " ++ Text.join ", " (p.bindings.map (·.target)))
    ++ (if p.mode = .merge then ", key: (" ++ Text.join ", " p.conflictKey ++ ")" else "")

end Plan

end Ferry
