import Ferry.Proofs.Identifier
import Ferry.Sql.Insert

set_option autoImplicit false

/-! # When a statement can be written

A statement that writes rows can be had just when every row has a value for each column and all the
names in the statement are usable. Its text is then put together of the quoted names and the
literals. -/

namespace Ferry.Sql

open Identifier (Usable quotedForm quotedNames)

variable {target : WriteTarget} {rows : List Row} {columns key ts : List String}
  {sql clause : String}

theorem tuples_eq_ok_iff : tuples target rows = .ok ts ↔
    (∀ row ∈ rows, row.length = target.columns.length) ∧ ts = rows.map tuple := by
  induction rows generalizing ts with
  | nil => simp [tuples, eq_comm]
  | cons row rest ih =>
      rw [tuples, List.forall_mem_cons]
      by_cases hrow : row.length = target.columns.length
      · rw [if_pos hrow, map_eq_ok_iff]
        simp only [ih, hrow, true_and, List.map_cons]
        constructor
        · rintro ⟨others, ⟨hothers, rfl⟩, rfl⟩
          exact ⟨hothers, rfl⟩
        · rintro ⟨hothers, rfl⟩
          exact ⟨_, ⟨hothers, rfl⟩, rfl⟩
      · simp [hrow]

/-- The error for a row that has not one value for each column. -/
def widthError (target : WriteTarget) (width : Nat) : MigrationError :=
  .transfer target.table s!"row has {width} values for {target.columns.length} columns"

/-- The first row that has not one value for each column makes the error, whatever the names. -/
theorem insert_eq_error {row : Row}
    (h : rows.find? (fun row => row.length != target.columns.length) = some row) :
    insert target rows = .error (widthError target row.length) := by
  have htuples : tuples target rows = .error (widthError target row.length) := by
    induction rows with
    | nil => cases h
    | cons first rest ih =>
        by_cases hfirst : first.length = target.columns.length
        · rw [List.find?_cons_of_neg (by simpa using hfirst)] at h
          rw [tuples, if_pos hfirst, ih h]
          rfl
        · rw [List.find?_cons_of_pos (by simpa using hfirst)] at h
          cases h
          rw [tuples, if_neg hfirst]
          rfl
  rw [insert, htuples]
  rfl

/-- The columns that are overwritten when the key is there already. -/
def overwritten (columns key : List String) : List String :=
  columns.filter (fun c => !key.contains c)

/-- The text of an action. -/
def actionText (columns key : List String) : String :=
  if overwritten columns key = [] then " DO NOTHING"
  else " DO UPDATE SET "
    ++ Text.join ", " ((overwritten columns key).map (fun c => assignment (quotedForm c)))

/-- The text behind the rows. -/
def clauseText (columns key : List String) : String :=
  " ON CONFLICT (" ++ quotedNames key ++ ")" ++ actionText columns key

theorem conflictClause_eq_ok_iff (hcolumns : ∀ name ∈ columns, Usable name) :
    conflictClause columns key = .ok clause ↔
      (∀ name ∈ key, Usable name) ∧ clause = clauseText columns key := by
  have hupdates : Identifier.quoteEach (overwritten columns key)
      = .ok ((overwritten columns key).map quotedForm) :=
    Identifier.quoteEach_eq_ok_iff.2
      ⟨fun name hname => hcolumns name (List.mem_filter.1 hname).1, rfl⟩
  have haction : (if ((overwritten columns key).map quotedForm).isEmpty then " DO NOTHING"
      else " DO UPDATE SET "
        ++ Text.join ", " (((overwritten columns key).map quotedForm).map assignment))
      = actionText columns key := by
    simp only [List.isEmpty_iff, List.map_eq_nil_iff, List.map_map, actionText, Function.comp_def]
  rw [overwritten] at hupdates haction
  simp only [conflictClause, hupdates, bind_eq_ok_iff, pure_eq_ok_iff, Except.ok.injEq,
    exists_eq_left', haction, Identifier.quoteList_eq_ok_iff]
  constructor
  · rintro ⟨keyList, ⟨hkey, rfl⟩, rfl⟩
    exact ⟨hkey, rfl⟩
  · rintro ⟨hkey, rfl⟩
    exact ⟨_, ⟨hkey, rfl⟩, rfl⟩

/-- The names that stand in a statement. -/
def names (target : WriteTarget) : List String :=
  target.schema :: target.table :: target.columns ++ target.conflictKey.getD []

/-- The text of a statement. -/
def text (target : WriteTarget) (rows : List Row) : String :=
  "INSERT INTO " ++ (quotedForm target.schema ++ "." ++ quotedForm target.table) ++ " ("
    ++ quotedNames target.columns ++ ") VALUES " ++ Text.join ", " (rows.map tuple)
    ++ (target.conflictKey.map (clauseText target.columns)).getD ""

theorem forall_names_iff : (∀ name ∈ names target, Usable name) ↔
    (Usable target.schema ∧ Usable target.table) ∧ (∀ name ∈ target.columns, Usable name)
      ∧ ∀ name ∈ target.conflictKey.getD [], Usable name := by
  simp only [names, List.cons_append, List.forall_mem_cons, List.forall_mem_append, and_assoc]

/-- The statement can be had just if every row has one value for each column and all names are
    usable. -/
theorem insert_eq_ok_iff : insert target rows = .ok sql ↔
    (∀ row ∈ rows, row.length = target.columns.length) ∧ (∀ name ∈ names target, Usable name)
      ∧ sql = text target rows := by
  unfold text
  simp only [insert, bind_eq_ok_iff, tuples_eq_ok_iff, forall_names_iff,
    Identifier.qualify_eq_ok_iff, Identifier.quoteList_eq_ok_iff]
  cases target.conflictKey with
  | none =>
      simp only [bind_eq_ok_iff, pure_eq_ok_iff]
      constructor
      · rintro ⟨_, ⟨hrows, rfl⟩, _, ⟨htable, rfl⟩, _, ⟨hcolumns, rfl⟩, _, hclause, rfl⟩
        cases hclause
        exact ⟨hrows, ⟨htable, hcolumns, fun _ hname => nomatch hname⟩, rfl⟩
      · rintro ⟨hrows, ⟨htable, hcolumns, -⟩, rfl⟩
        exact ⟨_, ⟨hrows, rfl⟩, _, ⟨htable, rfl⟩, _, ⟨hcolumns, rfl⟩, _, rfl, rfl⟩
  | some key =>
      simp only [bind_eq_ok_iff, pure_eq_ok_iff]
      constructor
      · rintro ⟨_, ⟨hrows, rfl⟩, _, ⟨htable, rfl⟩, _, ⟨hcolumns, rfl⟩, _, hclause, rfl⟩
        obtain ⟨hkey, rfl⟩ := (conflictClause_eq_ok_iff hcolumns).1 hclause
        exact ⟨hrows, ⟨htable, hcolumns, hkey⟩, rfl⟩
      · rintro ⟨hrows, ⟨htable, hcolumns, hkey⟩, rfl⟩
        exact ⟨_, ⟨hrows, rfl⟩, _, ⟨htable, rfl⟩, _, ⟨hcolumns, rfl⟩, _,
          (conflictClause_eq_ok_iff hcolumns).2 ⟨hkey, rfl⟩, rfl⟩

theorem exists_insert (hrows : ∀ row ∈ rows, row.length = target.columns.length)
    (hnames : ∀ name ∈ names target, Usable name) : ∃ sql, insert target rows = .ok sql :=
  ⟨_, insert_eq_ok_iff.2 ⟨hrows, hnames, rfl⟩⟩

end Ferry.Sql
