import Ferry.Postgres.Pool
import Ferry.Schema.Catalog

set_option autoImplicit false

/-! # Reading catalogs

A catalog is put together from two answers: a row for each column of each table, in which the rows
of a table follow each other, and a row for each column of a primary key. -/

namespace Ferry.Postgres

/-! ## Rows -/

/-- A row about a column of a table. -/
structure ColumnRow where
  table : String
  column : Column
deriving DecidableEq, Inhabited

/-- A row about a column of a primary key. -/
structure KeyRow where
  table : String
  column : String
deriving DecidableEq, Inhabited

/-- The value at a place of a row, unless it is null or of another type. -/
def required {α : Type} (d : Decoder) (pick : Value → Option α) (row : List Wire) (place : Nat) :
    Except Nat α :=
  match (row[place]?.bind d.decode).bind pick with
  | some a => .ok a
  | none => .error place

/-- The text of a value. -/
def textOf? : Value → Option String
  | .text s => some s
  | _ => none

/-- The text of a value that may be null. -/
def optionalText? : Value → Option (Option String)
  | .text s => some (some s)
  | .null => some none
  | _ => none

/-- The truth value of a value. -/
def boolOf? : Value → Option Bool
  | .bool b => some b
  | _ => none

/-- The whole number of a value. -/
def intOf? : Value → Option Int
  | .int n => some n
  | _ => none

/-- Read a row about a column of a table; an error is the place of the value at fault. -/
def ColumnRow.read (row : List Wire) : Except Nat ColumnRow := do
  let table ← required .text textOf? row 0
  let name ← required .text textOf? row 1
  let dataType ← required .text textOf? row 2
  let isNullable ← required .bool boolOf? row 3
  let default ← required .text optionalText? row 4
  let position ← required .int4 intOf? row 5
  return ⟨table, ⟨name, dataType, isNullable, default, position⟩⟩

/-- Read a row about a column of a primary key. -/
def KeyRow.read (row : List Wire) : Except Nat KeyRow := do
  let table ← required .text textOf? row 0
  let column ← required .text textOf? row 1
  return ⟨table, column⟩

/-- Read all rows, or give the place of the first value at fault. -/
def readAll {α : Type} (read : List Wire → Except Nat α) :
    List (List Wire) → Except Nat (List α)
  | [] => .ok []
  | row :: rest => do
    let a ← read row
    let as ← readAll read rest
    return a :: as

/-! ## Putting a catalog together -/

/-- The columns of the primary key of a table. -/
def keyOf (keys : List KeyRow) (table : String) : List String :=
  (keys.filter (fun k => k.table == table)).map (·.column)

/-- Add the column of a row to the tables so far, of which the last one comes first. A table is
    begun when the row in front was about another one; the key goes to the first table of a name
    that is begun. -/
def addColumn (schema : String) (keys : List KeyRow) (tables : List Table) (row : ColumnRow) :
    List Table :=
  let begun : Table :=
    { schema := schema, name := row.table, columns := [row.column]
      primaryKey :=
        if tables.any (fun t => t.name == row.table) then [] else keyOf keys row.table }
  match tables with
  | [] => [begun]
  | current :: rest =>
    if current.name = row.table then
      { current with columns := current.columns ++ [row.column] } :: rest
    else begun :: current :: rest

/-- The catalog of the rows of both answers. -/
def assemble (schema : String) (columns : List ColumnRow) (keys : List KeyRow) : Catalog :=
  let tables := (columns.foldl (addColumn schema keys) []).reverse
  tables.foldl Catalog.insert (Catalog.empty schema)

/-- The catalog of two answers. The rows of primary keys are read first. -/
def catalogOf (schema : String) (columns keys : List (List Wire)) : Except Nat Catalog := do
  let keyRows ← readAll KeyRow.read keys
  let columnRows ← readAll ColumnRow.read columns
  return assemble schema columnRows keyRows

/-- The wording of an error about a value that cannot be read. -/
def unreadable (place : Nat) : String := s!"error deserializing column {place}"

/-- Read the catalog of a schema. -/
def Client.readCatalog (schema : String) : Call Client Catalog := fun k =>
  match k.lease with
  | (.error issue, k) => (.error (.connection k.pool.name issue.message), k)
  | (.ok c, k) =>
    match k.query c (.columns schema) with
    | (.error e, c, k) => (.error (.catalogRead schema e.message), k.giveBack c)
    | (.ok columns, c, k) =>
      match k.query c (.primaryKeys schema) with
      | (.error e, c, k) => (.error (.catalogRead schema e.message), k.giveBack c)
      | (.ok keys, c, k) =>
        match catalogOf schema columns.rowList keys.rowList with
        | .error place => (.error (.catalogRead schema (unreadable place)), k.giveBack c)
        | .ok catalog => (.ok catalog, k.giveBack c)

end Ferry.Postgres
