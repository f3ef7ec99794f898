import Ferry.Plan.Check

set_option autoImplicit false

/-! # What a check finds

A plan passes its check just when it is sound for the two tables. `Plan.Sound` says what that is,
with one field for each part of the check; each part is read off the function that looks for what is
wrong there. -/

namespace Ferry

namespace Plan

/-- What a plan needs to be carried out between two tables. -/
structure Sound (p : Plan) (source target : Table) : Prop where
  /-- It copies some column. -/
  copies : p.sourceColumns ≠ []
  /-- The copied columns pair up. -/
  pairs : p.sourceColumns.length = p.targetColumns.length
  /-- The source has every copied column. -/
  has_source : ∀ name ∈ p.sourceColumns, source.column? name ≠ none
  /-- The target has every written column. -/
  has_target : ∀ name ∈ p.writeColumns, target.column? name ≠ none
  /-- No column is written twice. -/
  writes_once : p.writeColumns.Nodup
  /-- A filled column can take the constant of its filling and the column that it refers to. -/
  fills : ∀ b ∈ p.bindings, ∀ t, target.column? b.target = some t →
    b.filling.constant.fits t.dataType ∧
      ∀ name, b.filling.reads? = some name →
        ∃ s, source.column? name = some s ∧ reconcilable s.dataType t.dataType
  /-- When rows are merged there is a key, and all of it is written. -/
  has_key : p.mode = .merge →
    p.conflictKey ≠ [] ∧ ∀ name ∈ p.conflictKey, name ∈ p.writeColumns
  /-- The types of the copied columns allow the copy. -/
  reconciles : ∀ pair ∈ p.sourceColumns.zip p.targetColumns, ∀ s t,
    source.column? pair.1 = some s → target.column? pair.2 = some t →
      reconcilable s.dataType t.dataType

section
variable {p : Plan} {source target : Table} {names seen : List String} {b : Binding} {t : Column}

theorem shapeIssue?_eq_none_iff :
    p.shapeIssue? = none ↔
      p.sourceColumns ≠ [] ∧ p.sourceColumns.length = p.targetColumns.length := by
  unfold shapeIssue?
  by_cases hempty : p.sourceColumns.isEmpty
  · simp [List.isEmpty_iff.1 hempty]
  · have hne : p.sourceColumns ≠ [] := mt List.isEmpty_iff.2 hempty
    by_cases hlength : p.sourceColumns.length = p.targetColumns.length <;> simp [hne, hlength]

theorem sourceIssue?_eq_none_iff :
    sourceIssue? source names = none ↔ ∀ name ∈ names, source.column? name ≠ none := by
  simp [sourceIssue?, Table.hasColumn]

theorem writeIssue?_eq_none_iff :
    writeIssue? target seen names = none ↔
      (∀ name ∈ names, target.column? name ≠ none) ∧ names.Nodup ∧
        ∀ name ∈ names, name ∉ seen := by
  induction names generalizing seen with
  | nil => simp [writeIssue?]
  | cons name rest ih =>
      unfold writeIssue?
      by_cases hcolumn : target.column? name = none
      · simp [Table.hasColumn, hcolumn]
      · have hhas : target.hasColumn name := Option.isSome_iff_ne_none.2 hcolumn
        by_cases hseen : name ∈ seen
        · simp [hhas, hseen]
        · rw [if_neg (by simp [hhas]), if_neg (by simp [hseen]), ih]
          simp only [List.mem_cons, not_or, forall_eq_or_imp, List.nodup_cons]
          constructor
          · rintro ⟨hrest, hnodup, hfresh⟩
            exact ⟨⟨hcolumn, hrest⟩, ⟨fun hmem => (hfresh name hmem).1 rfl, hnodup⟩,
              hseen, fun n hn => (hfresh n hn).2⟩
          · rintro ⟨⟨-, hrest⟩, ⟨hname, hnodup⟩, -, hfresh⟩
            exact ⟨hrest, hnodup, fun n hn => ⟨fun heq => hname (heq ▸ hn), hfresh n hn⟩⟩

theorem referenceIssue?_eq_none_iff :
    referenceIssue? source b t = none ↔
      ∀ name, b.filling.reads? = some name →
        ∃ s, source.column? name = some s ∧ reconcilable s.dataType t.dataType := by
  unfold referenceIssue?
  cases b.filling.reads? with
  | none => simp
  | some name => cases hcolumn : source.column? name <;> simp [hcolumn]

theorem bindingIssue?_eq_none_iff :
    bindingIssue? source target b = none ↔
      ∀ t, target.column? b.target = some t →
        b.filling.constant.fits t.dataType ∧
          ∀ name, b.filling.reads? = some name →
            ∃ s, source.column? name = some s ∧ reconcilable s.dataType t.dataType := by
  unfold bindingIssue?
  cases target.column? b.target with
  | none => simp
  | some t =>
      simp only [Option.some.injEq, forall_eq', ← referenceIssue?_eq_none_iff]
      cases referenceIssue? source b t <;> simp

theorem keyIssue?_eq_none_iff :
    p.keyIssue? = none ↔ (p.mode = .merge →
      p.conflictKey ≠ [] ∧ ∀ name ∈ p.conflictKey, name ∈ p.writeColumns) := by
  unfold keyIssue?
  cases p.mode with
  | replace => simp
  | merge => cases hkey : p.conflictKey <;> simp

theorem pairIssue?_eq_none_iff {pair : String × String} :
    pairIssue? source target pair = none ↔ ∀ s t,
      source.column? pair.1 = some s → target.column? pair.2 = some t →
        reconcilable s.dataType t.dataType := by
  unfold pairIssue?
  cases source.column? pair.1 <;> cases target.column? pair.2 <;> simp

theorem issue?_eq_none_iff : p.issue? source target = none ↔ p.Sound source target := by
  simp only [issue?, Option.orElse_eq_orElse, Option.orElse_eq_or, Option.or_eq_none_iff,
    shapeIssue?_eq_none_iff, sourceIssue?_eq_none_iff, writeIssue?_eq_none_iff,
    List.findSome?_eq_none_iff, bindingIssue?_eq_none_iff, keyIssue?_eq_none_iff,
    pairIssue?_eq_none_iff]
  constructor
  · rintro ⟨⟨copies, pairs⟩, hsource, ⟨htarget, honce, -⟩, hfills, hkey, hreconciles⟩
    exact ⟨copies, pairs, hsource, htarget, honce, hfills, hkey, hreconciles⟩
  · rintro ⟨copies, pairs, hsource, htarget, honce, hfills, hkey, hreconciles⟩
    exact ⟨⟨copies, pairs⟩, hsource, ⟨htarget, honce, by simp⟩, hfills, hkey, hreconciles⟩

/-- A plan passes its check just when it is sound. -/
theorem check_eq_ok_iff : p.check source target = .ok () ↔ p.Sound source target := by
  rw [← issue?_eq_none_iff, check]
  cases p.issue? source target <;> simp

end

end Plan

/-! ## A sound plan -/

namespace Sample

/-- A table to read. -/
def people : Table where
  schema := "public"
  name := "people"
  columns :=
    [⟨"id", "integer", false, none, 1⟩, ⟨"name", "varchar(40)", true, none, 2⟩,
      ⟨"town", "text", true, none, 3⟩]
  primaryKey := ["id"]

/-- A table to write, with other columns. -/
def guests : Table where
  schema := "public"
  name := "people"
  columns :=
    [⟨"id", "bigint", false, none, 1⟩, ⟨"full_name", "text", true, none, 2⟩,
      ⟨"city", "text", true, none, 3⟩, ⟨"tags", "jsonb", true, none, 4⟩]
  primaryKey := ["id"]

/-- One column is copied as it is, one is renamed, and two are filled. -/
def entry : Entry where
  table := "people"
  mode := some .merge
  columns := [.same "id", .renamed "name" "full_name"]
  constants := [("city", .column "town" (some (.string "unknown"))), ("tags", .value (.array []))]
  conflictKey := []

def plan : Plan := Plan.ofEntry entry people guests

/-- Two rows to move: in the first the town is missing, in the second the name. -/
def rows : List Row := [[.int 1, .text "Ada", .null], [.int 2, .null, .text "Rome"]]

example : plan.check people guests = .ok () := rfl

end Sample

end Ferry
