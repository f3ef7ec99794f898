import Ferry.Proofs.Run.Clearance
import Ferry.Proofs.Schema.Reconciliation

set_option autoImplicit false

/-! # Straight copies

A table that has the same columns on both sides can be copied as it is. The plan for that is made of
the source alone and checked against the target by names, so what carries it is that tables that
match have matching columns under every name. A table that replaces the target passes the check
whatever its keys are; one that is merged passes it just when there is a key of its own columns. So
no table that a run adds because it is identical on both sides is refused. -/

namespace Ferry

/-- The key by which the rows of an entry are merged: its own, or else the target's primary key. -/
def Entry.mergeKey (entry : Entry) (target : Table) : List String :=
  if entry.conflictKey = [] then target.primaryKey else entry.conflictKey

/-! ## The plan of a straight copy -/

namespace Plan

variable {entry : Entry} {source target : Table}

theorem ofEntry_straight (hcolumns : entry.columns = []) (hconstants : entry.constants = []) :
    ofEntry entry source target =
      { straight source with
        conflictKey := entry.mergeKey target, mode := entry.mode.getD .replace } := by
  unfold ofEntry Entry.mergeKey
  simp [Entry.isAuthored, hcolumns, hconstants]

/-- Columns that two matching tables have under one name have types that allow a copy. -/
theorem reconcilable_of_matches (h : source.Matches target) {name : String} {s t : Column}
    (hs : source.column? name = some s) (ht : target.column? name = some t) :
    reconcilable s.dataType t.dataType := by
  obtain ⟨t', ht', hmatch⟩ := h.exists_column? hs
  cases ht'.symm.trans ht
  rw [hmatch.dataType]
  exact reconcilable_self t.dataType

/-- All that is left to ask of a straight copy between matching tables is about its key. -/
theorem sound_straight_iff (h : source.Matches target) (hsome : source.columns ≠ [])
    (hnodup : source.columnNames.Nodup) (key : List String) (mode : WriteMode) :
    { straight source with conflictKey := key, mode := mode }.Sound source target ↔
      (mode = .merge → key ≠ [] ∧ ∀ name ∈ key, name ∈ source.columnNames) := by
  have hwrites : { straight source with conflictKey := key, mode := mode }.writeColumns
      = source.columnNames := List.append_nil _
  constructor
  · intro hsound hmode
    obtain ⟨hkey, hwritten⟩ := hsound.has_key hmode
    exact ⟨hkey, fun name hname => hwrites ▸ hwritten name hname⟩
  · intro hkey
    refine
      { copies := ?_, pairs := rfl, has_source := ?_, has_target := ?_, writes_once := ?_
        fills := ?_, has_key := ?_, reconciles := ?_ }
    · simpa [straight, Table.columnNames] using hsome
    · intro name hname
      exact Table.mem_columnNames_iff.1 hname
    · intro name hname
      rw [hwrites, h.columnNames_eq] at hname
      exact Table.mem_columnNames_iff.1 hname
    · rw [hwrites]
      exact hnodup
    · intro b hb
      cases hb
    · intro hmode
      obtain ⟨hne, hown⟩ := hkey hmode
      exact ⟨hne, fun name hname => hwrites.symm ▸ hown name hname⟩
    · rintro ⟨name, name'⟩ hpair s t hs ht
      -- A column is paired with the one of its own name.
      have hsame : List.Forall₂ (· = ·) source.columnNames source.columnNames :=
        List.forall₂_refl _
      have hname : name = name' := List.forall₂_zip hsame hpair
      subst hname
      exact reconcilable_of_matches h hs ht

/-- The check of a straight copy between matching tables asks nothing of a plan that replaces the
    target, and of one that merges it asks for a key of columns that the tables have. -/
theorem check_straight (hcolumns : entry.columns = []) (hconstants : entry.constants = [])
    (h : source.Matches target) (hsome : source.columns ≠ []) (hnodup : source.columnNames.Nodup) :
    (ofEntry entry source target).check source target = .ok () ↔
      (entry.mode = some .merge → entry.mergeKey target ≠ [] ∧
        ∀ name ∈ entry.mergeKey target, name ∈ source.columnNames) := by
  rw [check_eq_ok_iff, ofEntry_straight hcolumns hconstants, sound_straight_iff h hsome hnodup]
  cases entry.mode with
  | none => simp
  | some mode => simp

end Plan

/-! ## Tables that a run adds -/

namespace Run

variable {config : Config} {sources targets : Catalog} {entry : Entry}

/-- An entry that is not listed copies a table straight that is identical on both sides. -/
theorem added_entry (hentry : entry ∈ entriesOf config sources targets)
    (hadded : entry.table ∉ config.migration.tables.map Entry.table) :
    entry = .straightCopy entry.table ∧ entry.table ∈ (classify sources targets).identical := by
  unfold entriesOf order at hentry
  rcases List.mem_append.1 hentry with hlisted | hmore
  · have hmem := List.mem_of_mem_filter hlisted
    exact absurd (List.mem_map_of_mem hmem) hadded
  · cases hwanted : config.migration.includeIdentical with
    | false => simp [hwanted] at hmore
    | true =>
        simp only [hwanted, if_true, List.mem_map] at hmore
        obtain ⟨name, hname, rfl⟩ := hmore
        exact ⟨rfl, List.mem_of_mem_filter hname⟩

/-- A straight copy of a table that is identical on both sides is carried out in a real run. -/
theorem decide_straightCopy {name : String} {source target : Table}
    (hsource : sources.get? name = some source) (htarget : targets.get? name = some target)
    (hidentical : name ∈ (classify sources targets).identical)
    (hcheck : (Plan.ofEntry (.straightCopy name) source target).check source target = .ok ()) :
    decide (settingOf config false sources targets) (.straightCopy name)
      = .carryOut (Plan.ofEntry (.straightCopy name) source target) source target := by
  have hfound : (classify sources targets).isIdentical name = true :=
    isIdentical_iff.2 hidentical
  unfold decide settingOf
  simp only [Entry.straightCopy] at hcheck ⊢
  simp [hsource, htarget, hfound, hcheck]

/-- Between tables with the same columns, at least one and none of them twice, the plan of an entry
    that maps nothing passes its check when the table is replaced, and when it is merged just if
    there is a key and all of it are columns of the table. A table that a run adds because it is
    identical on both sides therefore passes its check and is carried out. -/
theorem straight_copies_pass :
    (∀ (entry : Entry) (source target : Table), entry.columns = [] → entry.constants = [] →
      source.sameShape target → source.columns ≠ [] → source.columnNames.Nodup →
        (entry.mode ≠ some .merge →
          (Plan.ofEntry entry source target).check source target = .ok ()) ∧
        (entry.mode = some .merge →
          ((Plan.ofEntry entry source target).check source target = .ok () ↔
            entry.mergeKey target ≠ [] ∧
              ∀ name ∈ entry.mergeKey target, name ∈ source.columnNames))) ∧
    ∀ (config : Config) (sources targets : Catalog),
      ∀ entry ∈ entriesOf config sources targets,
        entry.table ∉ config.migration.tables.map Entry.table →
        ∃ source target, sources.get? entry.table = some source ∧
          targets.get? entry.table = some target ∧
          (source.columns ≠ [] → source.columnNames.Nodup →
            (Plan.ofEntry entry source target).check source target = .ok () ∧
            decide (settingOf config false sources targets) entry
              = .carryOut (Plan.ofEntry entry source target) source target) := by
  constructor
  · intro entry source target hcolumns hconstants hsame hsome hnodup
    have hmatch : source.Matches target := Table.sameShape_iff.1 hsame
    have hcheck := Plan.check_straight hcolumns hconstants hmatch hsome hnodup
    constructor
    · intro hmode
      exact hcheck.2 (fun hmerge => absurd hmerge hmode)
    · intro hmode
      rw [hcheck]
      exact ⟨fun h => h hmode, fun h _ => h⟩
  · intro config sources targets entry hentry hadded
    obtain ⟨hstraight, hidentical⟩ := added_entry hentry hadded
    obtain ⟨source, target, hsource, htarget, hmatch⟩ := mem_identical_iff.1 hidentical
    refine ⟨source, target, hsource, htarget, fun hsome hnodup => ?_⟩
    rw [hstraight]
    have hcheck : (Plan.ofEntry (.straightCopy entry.table) source target).check source target
        = .ok () := by
      refine (Plan.check_straight rfl rfl hmatch hsome hnodup).2 (fun hmode => ?_)
      cases hmode
    exact ⟨hcheck, decide_straightCopy hsource htarget hidentical hcheck⟩

/-- The towns are merged by their name, but not by a column that they lack; and a run that adds them
    moves them. -/
theorem sample_straight_copies_pass :
    (Plan.ofEntry ⟨"towns", some .merge, [], [], []⟩ Sample.towns Sample.towns).check
        Sample.towns Sample.towns = .ok () ∧
      (Plan.ofEntry ⟨"towns", some .merge, [], [], ["id"]⟩ Sample.towns Sample.towns).check
        Sample.towns Sample.towns ≠ .ok () ∧
      decide (settingOf Sample.withIdentical false Sample.state.source Sample.state.target)
          (.straightCopy "towns")
        = .carryOut (Plan.ofEntry (.straightCopy "towns") Sample.towns Sample.towns)
            Sample.towns Sample.towns := by
  obtain ⟨hpasses, hadds⟩ := straight_copies_pass
  have hmerge (key : List String) := (hpasses ⟨"towns", some .merge, [], [], key⟩ Sample.towns
    Sample.towns rfl rfl rfl (by simp [Sample.towns]) (List.nodup_singleton _)).2 rfl
  refine ⟨(hmerge []).2 ?_, ?_, ?_⟩
  · decide
  · rw [ne_eq, hmerge ["id"]]
    decide
  · have hentries : entriesOf Sample.withIdentical Sample.state.source Sample.state.target
        = [Ferry.Sample.entry, .straightCopy "towns"] := rfl
    obtain ⟨source, target, hsource, htarget, hcarried⟩ :=
      hadds Sample.withIdentical Sample.state.source Sample.state.target
        (.straightCopy "towns") (hentries ▸ List.mem_cons_of_mem _ List.mem_cons_self) (by decide)
    cases hsource
    cases htarget
    exact (hcarried (by simp [Sample.towns]) (List.nodup_singleton _)).2

end Run

end Ferry
