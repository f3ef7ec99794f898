import Ferry.Proofs.Keyed
import Ferry.Schema.Catalog

set_option autoImplicit false

/-! # What is found in a catalog

The tables of a catalog are a list by their names (`Catalog.entries`). So what is found under a name
is the table of that name which was inserted last (`get?_ofInserts`), and as a catalog is ascending,
every one of its tables is found under its name. -/

namespace Ferry.Catalog

/-- The catalog that tables make which are inserted one after the other. -/
def ofInserts (schema : String) (tables : List Table) : Catalog :=
  tables.foldl insert (empty schema)

/-- Of the tables with a name, the one that was inserted last. -/
def latest? (tables : List Table) (name : String) : Option Table :=
  tables.reverse.find? (fun t => t.name == name)

variable {c : Catalog} {table : Table} {tables : List Table} {name schema : String}

/-! ## Catalogs as lists by key -/

theorem get?_eq : c.get? name = Keyed.get? name (entries c.tables) := by
  rw [get?, Keyed.get?, entries, List.find?_map, Option.map_map]
  exact Option.map_id'.symm

/-! ## Inserting tables -/

theorem get?_insert :
    (c.insert table).get? name = if table.name = name then some table else c.get? name := by
  rw [get?_eq, get?_eq, Catalog.insert, entries_put, Keyed.get?_put]

theorem ofInserts_concat :
    ofInserts schema (tables ++ [table]) = (ofInserts schema tables).insert table :=
  List.foldl_concat ..

@[simp] theorem schema_ofInserts : (ofInserts schema tables).schema = schema := by
  induction tables using List.reverseRecOn with
  | nil => rfl
  | append_singleton before table ih => exact ofInserts_concat ▸ ih

/-- A catalog gives the version of a table that was inserted last. -/
theorem get?_ofInserts (schema : String) (tables : List Table) (name : String) :
    (ofInserts schema tables).get? name = latest? tables name := by
  induction tables using List.reverseRecOn with
  | nil => rfl
  | append_singleton before table ih =>
      rw [ofInserts_concat, get?_insert, ih, latest?, latest?, List.reverse_concat]
      by_cases hname : table.name = name
      · rw [if_pos hname]
        exact (List.find?_cons_of_pos (by simpa using hname)).symm
      · rw [if_neg hname, List.find?_cons_of_neg (by simpa using hname)]

theorem latest?_ne_none_iff : latest? tables name ≠ none ↔ name ∈ tables.map Table.name := by
  simp [latest?]

/-! ## Looking tables up -/

theorem mem_names_iff : name ∈ c.names ↔ c.get? name ≠ none := by
  simp [names, get?]

theorem names_pairwise (c : Catalog) : c.names.Pairwise (· < ·) := List.pairwise_map.2 c.ascending

theorem names_nodup (c : Catalog) : c.names.Nodup := c.names_pairwise.imp ne_of_lt

theorem get?_eq_some_iff : c.get? name = some table ↔ table ∈ c.tables ∧ table.name = name := by
  rw [get?_eq, (ascending_entries_iff.2 c.ascending).get?_eq_some_iff]
  simp [entries, and_comm]

end Ferry.Catalog
