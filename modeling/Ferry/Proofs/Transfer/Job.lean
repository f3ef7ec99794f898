import Ferry.Proofs.Outcome
import Ferry.Proofs.Schema.Table
import Ferry.Transfer

set_option autoImplicit false

/-! # Jobs

When there is a job for a plan, and what is in it. Only the columns that are read can be missing:
a column that is written to and that the target does not have counts as one of no special kind. -/

namespace Ferry

/-- The kind of the column that a table has under a name. -/
def Table.kindOf (t : Table) (name : String) : ColumnKind :=
  (t.column? name).elim .other Column.kind

theorem Table.kindOf_eq {table : Table} {name : String} {c : Column}
    (h : table.column? name = some c) : table.kindOf name = ColumnKind.ofType c.dataType := by
  simp only [Table.kindOf, h, Option.elim_some, Column.kind]

namespace Transfer

variable {source target : Table} {names : List String} {columns : List Column}
  {plan : Plan} {batchSize : Nat} {job : Job}

theorem findColumns_eq_ok_iff (table : String) :
    findColumns table source names = .ok columns
      ↔ names.map source.column? = columns.map some := by
  induction names generalizing columns with
  | nil => cases columns <;> simp [findColumns]
  | cons name rest ih =>
      cases hname : source.column? name with
      | none => cases columns <;> simp [findColumns, hname]
      | some c =>
          simp only [findColumns, hname, map_eq_ok_iff, ih]
          cases columns with
          | nil => simp
          | cons c' cs => simp [hname, and_left_comm]

theorem names_of_found (h : names.map source.column? = columns.map some) :
    columns.map Column.name = names := by
  induction names generalizing columns with
  | nil =>
      rw [List.map_nil, eq_comm, List.map_eq_nil_iff] at h
      rw [h, List.map_nil]
  | cons name rest ih =>
      cases columns with
      | nil => cases h
      | cons c cs =>
          obtain ⟨hc, hcs⟩ := List.cons.inj h
          rw [List.map_cons, Table.column?_name hc, ih hcs]

/-- The job of a plan for two tables, given the columns to read. -/
theorem Job.ofPlan_eq_ok_iff :
    Job.ofPlan plan source target batchSize = .ok job ↔
      ∃ columns, plan.readColumns.map source.column? = columns.map some ∧
        job = ⟨plan, plan.readColumns, plan.writeColumns.map target.kindOf,
          ⟨source.schema, source.name, columns, batchSize⟩,
          ⟨target.schema, target.name, plan.writeColumns, plan.upsertKey⟩⟩ := by
  simp only [Job.ofPlan, ← findColumns_eq_ok_iff plan.table]
  cases findColumns plan.table source plan.readColumns with
  | error e => simp [Except.map]
  | ok columns =>
      simp only [Except.map, Except.ok.injEq, exists_eq_left']
      exact eq_comm

theorem Job.exists_ofPlan_iff :
    (∃ job, Job.ofPlan plan source target batchSize = .ok job) ↔
      ∀ name ∈ plan.readColumns, source.column? name ≠ none := by
  simp only [Job.ofPlan_eq_ok_iff]
  constructor
  · rintro ⟨job, columns, hcolumns, -⟩ name hname
    have hmem : source.column? name ∈ columns.map some :=
      hcolumns ▸ List.mem_map_of_mem hname
    obtain ⟨c, -, hc⟩ := List.mem_map.1 hmem
    simp [← hc]
  · intro h
    refine ⟨_, plan.readColumns.filterMap source.column?, ?_, rfl⟩
    rw [List.map_filterMap_some_eq_filter_map_isSome, eq_comm, List.filter_eq_self]
    intro column hcolumn
    obtain ⟨name, hname, rfl⟩ := List.mem_map.1 hcolumn
    exact Option.isSome_iff_ne_none.2 (h name hname)

end Transfer

end Ferry
