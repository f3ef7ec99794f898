import Ferry.Keyed
import Ferry.Schema.Table

set_option autoImplicit false

/-! # Catalogs

The tables of one schema, ascending by name, each name once. -/

namespace Ferry

/-- The tables of one schema. -/
structure Catalog where
  schema : String
  tables : List Table
  /-- The tables are ascending by name, so no two have one name. -/
  ascending : tables.Pairwise (fun a b => a.name < b.name)

namespace Catalog

/-- A catalog without tables. -/
def empty (schema : String) : Catalog := ⟨schema, [], .nil⟩

instance : Inhabited Catalog := ⟨empty ""⟩

/-! ## Adding tables -/

/-- The tables by their names. -/
def entries (tables : List Table) : List (String × Table) := tables.map (fun t => (t.name, t))

/-- Enter a table into an ascending list of tables, in place of one with its name. -/
def put (table : Table) : List Table → List Table
  | [] => [table]
  | t :: rest =>
    if table.name = t.name then table :: rest
    else if table.name < t.name then table :: t :: rest
    else t :: put table rest

theorem entries_put (table : Table) (tables : List Table) :
    entries (put table tables) = Keyed.put table.name table (entries tables) := by
  induction tables with
  | nil => rfl
  | cons first rest ih =>
      simp only [put, entries, List.map_cons, Keyed.put]
      split
      · rfl
      · split
        · rfl
        · exact congrArg _ ih

theorem ascending_entries_iff {tables : List Table} : Keyed.Ascending (entries tables) ↔
    tables.Pairwise (fun a b => a.name < b.name) := by
  rw [Keyed.Ascending, entries, List.pairwise_map]

theorem ascending_put (table : Table) {tables : List Table}
    (h : tables.Pairwise (fun a b => a.name < b.name)) :
    (put table tables).Pairwise (fun a b => a.name < b.name) := by
  rw [← ascending_entries_iff] at h ⊢
  rw [entries_put]
  exact h.put

/-- Add a table, in place of one with its name. -/
def insert (c : Catalog) (table : Table) : Catalog :=
  { c with tables := put table c.tables, ascending := ascending_put table c.ascending }

/-- Add a table; a catalog without a schema name takes that of the table. -/
def adopt (c : Catalog) (table : Table) : Catalog :=
  { c.insert table with schema := if c.schema.isEmpty then table.schema else c.schema }

/-- The catalog of a list of tables, with the schema of the first. -/
def ofTables (tables : List Table) : Catalog := tables.foldl adopt (empty "")

/-! ## Looking tables up -/

/-- The table of a name. -/
def get? (c : Catalog) (name : String) : Option Table :=
  c.tables.find? (fun t => t.name == name)

def contains (c : Catalog) (name : String) : Bool := (c.get? name).isSome

/-- The names of the tables, ascending. -/
def names (c : Catalog) : List String := c.tables.map (·.name)

def size (c : Catalog) : Nat := c.tables.length

/-- Whether two lists of tables pair up tables of one name and the same columns. -/
def sameTables : List Table → List Table → Bool
  | [], [] => true
  | a :: as, b :: bs => a.name == b.name && a.sameShape b && sameTables as bs
  | _, _ => false

/-- Whether two catalogs have the same schema name and the same tables by name and columns. -/
def sameAs (a b : Catalog) : Bool := a.schema == b.schema && sameTables a.tables b.tables

end Catalog

end Ferry
