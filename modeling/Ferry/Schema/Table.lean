import Ferry.Schema.DataType

set_option autoImplicit false

/-! # Tables

A table as the catalog of a database describes it: its columns in order and its primary key. -/

namespace Ferry

/-- A column of a table. -/
structure Column where
  name : String
  dataType : String
  isNullable : Bool
  /-- The expression that fills the column when a row leaves it out. -/
  default : Option String
  /-- The position in the table, counted from one. Dropped columns leave gaps. -/
  position : Int
deriving DecidableEq, Inhabited

namespace Column

/-- Whether two columns agree in name, type, nullability and default. Positions do not count. -/
def sameShape (a b : Column) : Bool :=
  a.name == b.name && a.dataType == b.dataType && a.isNullable == b.isNullable
    && a.default == b.default

/-- The coarse kind of the column's type. -/
def kind (c : Column) : ColumnKind := ColumnKind.ofType c.dataType

end Column

/-- A table. -/
structure Table where
  schema : String
  name : String
  columns : List Column
  /-- The columns of the primary key in key order; empty when there is none. -/
  primaryKey : List String
deriving DecidableEq, Inhabited

namespace Table

/-- Whether two column lists have the same length and the same shapes in order. -/
def sameColumns : List Column → List Column → Bool
  | [], [] => true
  | a :: as, b :: bs => a.sameShape b && sameColumns as bs
  | _, _ => false

/-- Whether two tables have the same columns. Name, schema and primary key do not count. -/
def sameShape (a b : Table) : Bool := sameColumns a.columns b.columns

/-- Schema and name with a point between. -/
def fullName (t : Table) : String := t.schema ++ "." ++ t.name

/-- The first column of a name. -/
def column? (t : Table) (name : String) : Option Column :=
  t.columns.find? (fun c => c.name == name)

def hasColumn (t : Table) (name : String) : Bool := (t.column? name).isSome

/-- The names of the columns in order. -/
def columnNames (t : Table) : List String := t.columns.map (·.name)

end Table

end Ferry
