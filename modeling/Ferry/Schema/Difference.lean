import Ferry.Document.Basic
import Ferry.Schema.Table
import Ferry.Text.Basic

set_option autoImplicit false

/-! # Differences between two versions of a table

`Table.difference` compares a source table with a target table column by column: columns that
only one side has, columns that changed, and columns that both have but in another order. -/

namespace Ferry

/-- How a column that both sides have differs. An attribute is present when it differs, with its
    value in the source and in the target. -/
structure ColumnChange where
  column : String
  dataType : Option (String × String)
  nullable : Option (Bool × Bool)
  default : Option (Option String × Option String)
deriving DecidableEq, Inhabited

/-- The differences between two versions of a table. -/
structure TableDifference where
  /-- Names that only the source has, in its order. -/
  onlyInSource : List String
  /-- Names that only the target has, in its order. -/
  onlyInTarget : List String
  /-- Changed columns, in the order of the source. -/
  changed : List ColumnChange
  /-- Common names whose place among the common names differs, in the order of the source. -/
  reordered : List String
deriving DecidableEq, Inhabited

/-- A pair of two values, when they differ. -/
def differing {α : Type} [DecidableEq α] (a b : α) : Option (α × α) :=
  if a = b then none else some (a, b)

/-- What changed from one column to another of its name. -/
def Column.change? (source target : Column) : Option ColumnChange :=
  if source.sameShape target then none
  else
    some { column := source.name
           dataType := differing source.dataType target.dataType
           nullable := differing source.isNullable target.isNullable
           default := differing source.default target.default }

/-- The source's names at the places where two lists of names differ. -/
def displaced : List String → List String → List String
  | s :: ss, t :: ts => if s = t then displaced ss ts else s :: displaced ss ts
  | _, _ => []

/-- The differences from a source table to a target table. -/
def Table.difference (source target : Table) : TableDifference :=
  let common := source.columnNames.filter target.columnNames.contains
  let commonTarget := target.columnNames.filter source.columnNames.contains
  { onlyInSource := source.columnNames.filter (fun n => !target.columnNames.contains n)
    onlyInTarget := target.columnNames.filter (fun n => !source.columnNames.contains n)
    changed :=
      source.columns.filterMap (fun c => (target.column? c.name).bind (fun t => c.change? t))
    reordered := displaced common commonTarget }

namespace TableDifference

def isEmpty (d : TableDifference) : Bool :=
  d.onlyInSource.isEmpty && d.onlyInTarget.isEmpty && d.changed.isEmpty && d.reordered.isEmpty

/-- Names in brackets behind a mark; nothing for no names. -/
def group (mark : String) (names : List String) : List String :=
  if names.isEmpty then [] else [mark ++ "[" ++ Text.join ", " names ++ "]"]

/-- The differences on one line. -/
def summary (d : TableDifference) : String :=
  Text.join " "
    (group "-" d.onlyInSource ++ group "+" d.onlyInTarget
      ++ group "~" (d.changed.map (·.column)) ++ group "reordered" d.reordered)

end TableDifference

/-! ## Documents -/

/-- The member for a pair of two values that differ. -/
def pairMember {α : Type} (key : String) (value : α → Document) (pair : Option (α × α)) :
    List (String × Document) :=
  match pair with
  | some (a, b) => [(key, .array [value a, value b])]
  | none => []

/-- The change as a document, with a member for each attribute that differs. -/
def ColumnChange.toDocument (c : ColumnChange) : Document :=
  .object
    (("column", .string c.column)
      :: pairMember "data_type" .string c.dataType
      ++ pairMember "nullable" .bool c.nullable
      ++ pairMember "default" .ofText? c.default)

/-- The differences as a document. -/
def TableDifference.toDocument (d : TableDifference) : Document :=
  .object
    [("only_in_source", .ofTexts d.onlyInSource), ("only_in_target", .ofTexts d.onlyInTarget),
     ("changed", .array (d.changed.map ColumnChange.toDocument)),
     ("reordered", .ofTexts d.reordered)]

end Ferry
