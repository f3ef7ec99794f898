import Ferry.Proofs.Pairing
import Ferry.Schema.Table
import Mathlib.Data.List.Nodup

set_option autoImplicit false

/-! # Tables by their columns

A column is looked up by its name, and two tables are compared place by place. Both fit together:
tables that match have matching columns under every name (`Table.Matches.exists_column?`). -/

namespace Ferry

/-! ## Looking columns up -/

section
variable {t : Table} {name : String} {c : Column}

theorem Table.column?_name (h : t.column? name = some c) : c.name = name := by
  have hc := List.find?_some h
  exact beq_iff_eq.1 hc

theorem Table.mem_columnNames_iff : name ∈ t.columnNames ↔ t.column? name ≠ none := by
  simp [columnNames, column?]

/-- Where no name occurs twice every column is found under its name. -/
theorem Table.column?_eq_some_iff (h : t.columnNames.Nodup) :
    t.column? name = some c ↔ c ∈ t.columns ∧ c.name = name := by
  constructor
  · intro hfound
    exact ⟨List.mem_of_find?_eq_some hfound, column?_name hfound⟩
  · rintro ⟨hmem, rfl⟩
    have hname : c.name ∈ t.columnNames := List.mem_map_of_mem hmem
    obtain ⟨c', hfound⟩ := Option.ne_none_iff_exists'.1 (mem_columnNames_iff.1 hname)
    have hsame : c' = c :=
      List.inj_on_of_nodup_map h (List.mem_of_find?_eq_some hfound) hmem (column?_name hfound)
    rw [hfound, hsame]

end

/-! ## The same columns -/

/-- Two columns that agree in all that their shape consists of. -/
structure Column.Matches (a b : Column) : Prop where
  name : a.name = b.name
  dataType : a.dataType = b.dataType
  isNullable : a.isNullable = b.isNullable
  default : a.default = b.default

/-- Two tables have as many columns, and those at the same place match. -/
def Table.Matches (a b : Table) : Prop := List.Forall₂ Column.Matches a.columns b.columns

theorem Column.sameShape_iff {a b : Column} : a.sameShape b ↔ a.Matches b := by
  simp only [sameShape, Bool.and_eq_true, beq_iff_eq]
  constructor
  · rintro ⟨⟨⟨hname, htype⟩, hnull⟩, hdefault⟩
    exact ⟨hname, htype, hnull, hdefault⟩
  · rintro ⟨hname, htype, hnull, hdefault⟩
    exact ⟨⟨⟨hname, htype⟩, hnull⟩, hdefault⟩

theorem Table.sameColumns_iff {as bs : List Column} :
    sameColumns as bs ↔ List.Forall₂ Column.Matches as bs := by
  induction as generalizing bs with
  | nil => cases bs <;> simp [sameColumns]
  | cons a as ih => cases bs <;> simp [sameColumns, Column.sameShape_iff, ih]

theorem Table.sameShape_iff {a b : Table} : a.sameShape b ↔ a.Matches b := sameColumns_iff

theorem Column.Matches.symm {a b : Column} (h : a.Matches b) : b.Matches a :=
  ⟨h.name.symm, h.dataType.symm, h.isNullable.symm, h.default.symm⟩

namespace Table.Matches

variable {a b : Table} {name : String}

theorem symm (h : a.Matches b) : b.Matches a := by
  show List.Forall₂ Column.Matches b.columns a.columns
  exact List.Forall₂.flip (List.Forall₂.imp (fun _ _ hc => Column.Matches.symm hc) h)

theorem columnNames_eq (h : a.Matches b) : a.columnNames = b.columnNames := by
  unfold columnNames
  rw [← List.forall₂_eq_eq_eq, List.forall₂_map_left_iff, List.forall₂_map_right_iff]
  exact List.Forall₂.imp (fun _ _ hc => hc.name) h

/-- What is found under a name in one of two tables that match is matched by what the other has
    under it. -/
theorem exists_column? {c : Column} (h : a.Matches b) (hc : a.column? name = some c) :
    ∃ d, b.column? name = some d ∧ c.Matches d := by
  unfold Table.column? at hc ⊢
  unfold Table.Matches at h
  generalize a.columns = as at h hc
  generalize b.columns = bs at h ⊢
  induction h with
  | nil => cases hc
  | @cons first first' as bs hfirst hrest ih =>
      by_cases hname : first.name = name
      · have hname' : first'.name = name := hfirst.name ▸ hname
        rw [List.find?_cons_of_pos (by simpa using hname)] at hc
        rw [List.find?_cons_of_pos (by simpa using hname')]
        exact ⟨first', rfl, Option.some.inj hc ▸ hfirst⟩
      · have hname' : first'.name ≠ name := hfirst.name ▸ hname
        rw [List.find?_cons_of_neg (by simpa using hname)] at hc
        rw [List.find?_cons_of_neg (by simpa using hname')]
        exact ih hc

end Table.Matches

/-- Tables match if they have the same names place by place and matching columns under them. -/
theorem Table.matches_iff {a b : Table} (ha : a.columnNames.Nodup) (hb : b.columnNames.Nodup) :
    a.Matches b ↔ a.columnNames = b.columnNames ∧
      ∀ c ∈ a.columns, ∀ d ∈ b.columns, c.name = d.name → c.Matches d := by
  constructor
  · intro h
    refine ⟨h.columnNames_eq, ?_⟩
    intro c hc d hd hname
    obtain ⟨d', hd', hmatch⟩ := h.exists_column? ((column?_eq_some_iff ha).2 ⟨hc, rfl⟩)
    cases hd'.symm.trans ((column?_eq_some_iff hb).2 ⟨hd, hname.symm⟩)
    exact hmatch
  · rintro ⟨hnames, hcolumns⟩
    exact forall₂_of_map_eq hnames hcolumns

end Ferry
