import Ferry.Proofs.Sql.Insert
import Ferry.Proofs.Transfer.Rows

set_option autoImplicit false

/-! # Rows that are too short

A row is cut to the copied columns, the filled values are put behind it, and each value is adapted
to the column at its place. A row that has fewer values than columns are copied gets its filled
values too far in front. Such a row is short of values for the columns that are written by as many
as it lacked, so no statement is made of it, nor of the rows beside it: `rows_written_aligned`. -/

namespace Ferry

namespace Transfer

section
variable {plan : Plan} {target : Table} {readColumns writeColumns names : List String}
  {kindOf : String → ColumnKind} {row out : Row} {name : String} {v : Value} {i : Nat}

/-! ## One row -/

theorem getElem?_adaptRow
    (h : adaptRow plan readColumns (plan.writeColumns.map kindOf) plan.writeColumns row = .ok out)
    (hname : plan.writeColumns[i]? = some name)
    (hvalue : (plan.project readColumns row)[i]? = some v) :
    ∃ x, out[i]? = some x ∧ v.adapt (kindOf name) name = .ok x := by
  rw [adaptRow, adaptValues_eq_ok_iff] at h
  have hplace : (plan.writeColumns.zip (plan.project readColumns row))[i]? = some (name, v) :=
    List.getElem?_zip_eq_some.2 ⟨hname, hvalue⟩
  exact getElem?_of_forall₂ h hplace

/-- A row has one value for each column that is written, and each of them at the place of its
    column: that of a copied column comes from the same place of the row, and that of a filled
    column from its own binding. -/
structure Aligned (plan : Plan) (target : Table) (readColumns : List String) (row out : Row) :
    Prop where
  width : out.length = plan.writeColumns.length
  copied : ∀ (i : Nat) name, plan.targetColumns[i]? = some name →
    ∃ v x, row[i]? = some v ∧ out[i]? = some x ∧
      v.adapt (target.kindOf name) name = .ok x
  filled : ∀ (i : Nat) b, plan.bindings[i]? = some b →
    ∃ x, out[plan.targetColumns.length + i]? = some x ∧
      (b.resolve readColumns row).adapt (target.kindOf b.target) b.target = .ok x

theorem aligned_of_adaptRow (hpairs : plan.sourceColumns.length = plan.targetColumns.length)
    (hrow : plan.sourceColumns.length ≤ row.length)
    (h : adaptRow plan readColumns (plan.writeColumns.map target.kindOf) plan.writeColumns row
      = .ok out) : Aligned plan target readColumns row out := by
  -- The values in front of the filled ones are as many as the columns in front of theirs.
  have hcopied : (row.take plan.sourceColumns.length).length = plan.targetColumns.length := by
    rw [List.length_take, Nat.min_eq_left hrow, hpairs]
  constructor
  case width =>
    rw [length_adaptRow hpairs h, Nat.min_eq_left hrow, hpairs, Plan.writeColumns,
      List.length_append, List.length_map]
  case copied =>
    intro i name hname
    obtain ⟨hi, -⟩ := List.getElem?_eq_some_iff.1 hname
    have hlt : i < row.length := Nat.lt_of_lt_of_le (hpairs ▸ hi) hrow
    have hwrite : plan.writeColumns[i]? = some name := by
      rw [Plan.writeColumns, List.getElem?_append_left hi, hname]
    have hvalue : (plan.project readColumns row)[i]? = some row[i] := by
      rw [Plan.project, List.getElem?_append_left (hcopied.symm ▸ hi),
        List.getElem?_take_of_lt (hpairs.symm ▸ hi), List.getElem?_eq_getElem hlt]
    obtain ⟨x, hx, hadapt⟩ := getElem?_adaptRow h hwrite hvalue
    exact ⟨row[i], x, List.getElem?_eq_getElem hlt, hx, hadapt⟩
  case filled =>
    intro i b hb
    refine getElem?_adaptRow h ?_ ?_
    · rw [Plan.writeColumns, List.getElem?_append_right (Nat.le_add_right ..),
        Nat.add_sub_cancel_left, List.getElem?_map, hb, Option.map_some]
    · rw [Plan.project, List.getElem?_append_right (hcopied ▸ Nat.le_add_right ..), hcopied,
        Nat.add_sub_cancel_left, List.getElem?_map, hb, Option.map_some]

end

/-! ## Batches -/

/-- Where the rows of a plan are written. -/
def writeTarget (plan : Plan) (target : Table) : WriteTarget :=
  ⟨target.schema, target.name, plan.writeColumns, plan.upsertKey⟩

/-- Of a batch with a row that is too short no statement is made: the error counts the values that
    the first such row has left. In every batch of which a statement is made, as in every batch
    without such a row, each row that is written has its values at the places of their columns. -/
theorem rows_written_aligned (plan : Plan) (target : Table) (readColumns : List String)
    (rows out : List Row) (hpairs : plan.sourceColumns.length = plan.targetColumns.length)
    (hadapt : adaptBatch plan readColumns (plan.writeColumns.map target.kindOf) plan.writeColumns
      rows = .ok out) :
    ((∃ row ∈ rows, row.length < plan.sourceColumns.length) →
      ∃ short ∈ rows, short.length < plan.sourceColumns.length ∧
        Sql.insert (writeTarget plan target) out
          = .error (Sql.widthError (writeTarget plan target)
              (short.length + plan.bindings.length))) ∧
    ((∀ row ∈ rows, plan.sourceColumns.length ≤ row.length) →
      List.Forall₂ (Aligned plan target readColumns) rows out) ∧
    ∀ sql, Sql.insert (writeTarget plan target) out = .ok sql →
      List.Forall₂ (Aligned plan target readColumns) rows out := by
  have hrows := adaptBatch_eq_ok_iff.1 hadapt
  have hcolumns : plan.writeColumns.length = plan.sourceColumns.length + plan.bindings.length := by
    rw [Plan.writeColumns, List.length_append, List.length_map, hpairs]
  have haligned (hwide : ∀ row ∈ rows, plan.sourceColumns.length ≤ row.length) :
      List.Forall₂ (Aligned plan target readColumns) rows out :=
    forall₂_imp_of_mem (fun row hrow w hw => aligned_of_adaptRow hpairs (hwide row hrow) hw) hrows
  -- The first row that is too short is also the first whose values do not fit the columns.
  have hrefused (hshort : ∃ row ∈ rows, row.length < plan.sourceColumns.length) :
      ∃ short ∈ rows, short.length < plan.sourceColumns.length ∧
        Sql.insert (writeTarget plan target) out
          = .error (Sql.widthError (writeTarget plan target)
              (short.length + plan.bindings.length)) := by
    obtain ⟨short, hfind⟩ : ∃ short,
        rows.find? (fun row => decide (row.length < plan.sourceColumns.length)) = some short := by
      rw [← Option.isSome_iff_exists, List.find?_isSome]
      simpa using hshort
    have hlt : short.length < plan.sourceColumns.length := by simpa using List.find?_some hfind
    obtain ⟨w, hw, hadapted⟩ := find?_of_forall₂
      (q := fun w : Row => w.length != plan.writeColumns.length) hrows (fun row w hadapted => by
        rw [length_adaptRow hpairs hadapted, hcolumns, Bool.eq_iff_iff, decide_eq_true_iff,
          bne_iff_ne]
        omega) hfind
    have hwidth : w.length = short.length + plan.bindings.length := by
      rw [length_adaptRow hpairs hadapted, Nat.min_eq_right (Nat.le_of_lt hlt)]
    exact ⟨short, List.mem_of_find?_eq_some hfind, hlt, hwidth ▸ Sql.insert_eq_error hw⟩
  refine ⟨hrefused, haligned, fun sql hsql => haligned (fun row hrow => ?_)⟩
  by_contra hshort
  obtain ⟨short, -, -, herror⟩ := hrefused ⟨row, hrow, Nat.lt_of_not_le hshort⟩
  rw [herror] at hsql
  cases hsql

/-- Three rows of the table of the sample, of which the second one has lost its end and the last one
    has a value too many. -/
def Sample.uneven : List Row :=
  [[.int 1, .text "Ada", .null], [.int 2], [.int 3, .null, .text "Rome", .bool true]]

theorem sample_rows_written_aligned :
    ∃ out,
      adaptBatch Sample.plan Sample.plan.readColumns
          (Sample.plan.writeColumns.map Sample.guests.kindOf) Sample.plan.writeColumns
          Sample.uneven = .ok out ∧
        Sql.insert (writeTarget Sample.plan Sample.guests) out
          = .error (.transfer "people" "row has 3 values for 4 columns") := by
  obtain ⟨out, hout⟩ : ∃ out, adaptBatch Sample.plan Sample.plan.readColumns
      (Sample.plan.writeColumns.map Sample.guests.kindOf) Sample.plan.writeColumns
      Sample.uneven = .ok out := isOk_iff.1 (by decide)
  refine ⟨out, hout, ?_⟩
  obtain ⟨hrefused, -⟩ := rows_written_aligned Sample.plan Sample.guests Sample.plan.readColumns
    Sample.uneven out rfl hout
  obtain ⟨short, hmem, hlt, herror⟩ := hrefused ⟨[.int 2], by simp [Sample.uneven], by decide⟩
  rw [herror]
  have honly : ∀ row ∈ Sample.uneven, row.length < Sample.plan.sourceColumns.length →
      row.length = 1 := by decide
  rw [honly short hmem hlt]
  rfl

end Transfer

end Ferry
