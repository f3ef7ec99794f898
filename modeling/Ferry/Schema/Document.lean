import Ferry.Document.Form
import Ferry.Schema.Catalog

set_option autoImplicit false

/-! # Tables as documents

A table is an object with its columns. A column is written as an object, and may be given in short
as a list of its name and type, whether it may be null, and its default; its position is then its
place in the table. -/

namespace Ferry

open Form

/-- A column in the form of a list. -/
def Column.ofItems (position : Int) (name dataType : Document) (rest : List Document) :
    Reading Column := do
  let isNullable ← match rest[0]? with
    | some b => truth b
    | none => pure true
  let default ← match rest[1]? with
    | some t => nullable text t
    | none => pure none
  return ⟨← text name, ← text dataType, isNullable, default, position⟩

/-- A column that stands at a position of its table. -/
def Column.ofDocument (position : Int) (d : Document) : Reading Column := do
  match d with
  | .array (name :: dataType :: rest) => Column.ofItems position name dataType rest
  | _ =>
    return ⟨← textMember d "name", ← textMember d "data_type",
      ← truth (← member d "is_nullable"), ← nullable text (← member d "default"),
      ← integer (← member d "ordinal_position")⟩

/-- Columns that stand from a position on. -/
def Column.listOfDocuments (position : Int) : List Document → Reading (List Column)
  | [] => .ok []
  | d :: rest => do
    let c ← Column.ofDocument position d
    let cs ← Column.listOfDocuments (position + 1) rest
    return c :: cs

def Table.ofDocument (d : Document) : Reading Table := do
  return { schema := ← textOr d "schema" "public"
           name := ← textMember d "name"
           columns := ← Column.listOfDocuments 1 (← items (← member d "columns"))
           primaryKey := ← orElse d "primary_key" [] texts }

def Column.toDocument (c : Column) : Document :=
  .object
    [("name", .string c.name), ("data_type", .string c.dataType),
     ("is_nullable", .bool c.isNullable), ("default", .ofText? c.default),
     ("ordinal_position", .ofInt c.position)]

def Table.toDocument (t : Table) : Document :=
  .object
    [("schema", .string t.schema), ("name", .string t.name),
     ("columns", .array (t.columns.map Column.toDocument)), ("primary_key", .ofTexts t.primaryKey)]

def Catalog.toDocument (c : Catalog) : Document :=
  .object
    [("schema", .string c.schema),
     ("tables", .object (c.tables.map (fun t => (t.name, t.toDocument))))]

end Ferry
