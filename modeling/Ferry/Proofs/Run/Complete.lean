import Ferry.Proofs.Run.Storage
import Ferry.Proofs.Transfer.Batching
import Mathlib.Data.List.Nodup

set_option autoImplicit false

/-! # Complete runs

A run that moves tables, is not cancelled and has no table twice in its order. In such a run every
table has one turn, and what is reported on it, called for it and left of it is told by that turn
alone. -/

namespace Ferry.Run

variable {σ κ : Type}

/-- A run that moves tables and is not cancelled, in whose order no table stands twice. -/
structure CompleteRun (b : Backend σ) where
  config : Config
  stamp : RunStamp
  hash : String
  start : σ
  sources : Catalog
  targets : Catalog
  /-- The state after the catalogs were read. -/
  ready : σ
  result : RunReport
  final : σ
  reads : readCatalogs b config start = (.ok (sources, targets), ready)
  runs : migrate b config false stamp hash start = (.ok result, final)
  through : result.cancelled = false
  once : ((entriesOf config sources targets).map Entry.table).Nodup

namespace CompleteRun

variable {b : Backend σ} {storage : Storage κ} (R : CompleteRun b)

/-- The run between two catalogs that have been read. -/
def ofReads (config : Config) (start : σ) {ready : σ} {sources targets : Catalog}
    (reads : readCatalogs b config start = (.ok (sources, targets), ready))
    (through : (runEntries b (settingOf config false sources targets)
      (entriesOf config sources targets) ready).1.1 = false)
    (once : ((entriesOf config sources targets).map Entry.table).Nodup) : CompleteRun b where
  config := config
  stamp := default
  hash := ""
  start := start
  sources := sources
  targets := targets
  ready := ready
  result := _
  final := _
  reads := reads
  runs := migrate_of_ok reads
  through := through
  once := once

/-- What is known when the tables are moved. -/
def setting : Setting := settingOf R.config false R.sources R.targets

/-- The order of the run. -/
def entries : List Entry := entriesOf R.config R.sources R.targets

/-- The turns of the run. -/
def turns : List (Turn σ) := turnsOf b R.config false R.start

/-- The reports on a table. -/
def reportsOn (table : String) : List TableReport :=
  R.result.tables.filter (fun r => r.table == table)

/-- The calls that are made for a table. -/
def callsFor (table : String) : List Step :=
  (R.turns.filter (fun t => t.entry.table == table)).flatMap Turn.steps

theorem turns_eq : R.turns = Run.turns b R.setting R.entries R.ready := turnsOf_of_ok R.reads

theorem tables_eq :
    R.turns.map Turn.entry = R.entries ∧ R.result.tables = R.turns.map Turn.report :=
  tables_of_not_cancelled R.reads R.runs R.through

theorem final_eq : R.final = (runEntries b R.setting R.entries R.ready).2 := by
  have hrun := R.runs
  rw [migrate_of_ok R.reads] at hrun
  exact (congrArg Prod.snd hrun).symm

/-- In a list in which no two members share a key, one member has the key of that member. -/
theorem filter_eq_singleton {α : Type} {f : α → String} {xs : List α} {x : α}
    (h : (xs.map f).Nodup) (hx : x ∈ xs) : xs.filter (fun y => f y == f x) = [x] := by
  induction xs with
  | nil => cases hx
  | cons y ys ih =>
      rw [List.map_cons, List.nodup_cons] at h
      obtain ⟨hfresh, hrest⟩ := h
      rcases List.mem_cons.1 hx with rfl | hx
      · rw [List.filter_cons_of_pos (by simp)]
        refine congrArg _ (List.filter_eq_nil_iff.2 (fun z hz hsame => hfresh ?_))
        exact List.mem_map.2 ⟨z, hz, beq_iff_eq.1 hsame⟩
      · have hne : f y ≠ f x := fun hsame => hfresh (hsame ▸ List.mem_map_of_mem hx)
        rw [List.filter_cons_of_neg (by simpa using hne)]
        exact ih hrest hx

/-- The reports and the calls of a table are those of its turn. -/
theorem of_turn {t : Turn σ} (ht : t ∈ R.turns) :
    R.reportsOn t.entry.table = [t.report] ∧ R.callsFor t.entry.table = t.steps := by
  obtain ⟨hentries, hreports⟩ := R.tables_eq
  have honce : (R.turns.map (fun u => u.entry.table)).Nodup := by
    have h := R.once
    rwa [← entries, ← hentries, List.map_map] at h
  have honly := filter_eq_singleton honce ht
  constructor
  · have hsame : ∀ u ∈ R.turns,
        (u.report.table == t.entry.table) = (u.entry.table == t.entry.table) := by
      intro u hu
      rw [turns_eq] at hu
      rw [(goes_of_mem hu).report_table]
    rw [reportsOn, hreports, List.filter_map, Function.comp_def, List.filter_congr hsame, honly]
    rfl
  · rw [callsFor, honly]
    exact List.append_nil _

/-- The turn of an entry starts with what is served and with its table as they were, and what it
    leaves of its table stays. -/
theorem exists_turn (D : Databases b storage) {entry : Entry} (hentry : entry ∈ R.entries) :
    ∃ t ∈ R.turns, t.entry = entry ∧ t.Goes b R.setting ∧
      D.source.service t.start = D.source.service R.start ∧
      D.target.content t.start entry.table = D.target.content R.start entry.table ∧
      D.target.content R.final entry.table = D.target.content t.final entry.table := by
  rw [← R.tables_eq.1] at hentry
  obtain ⟨t, ht, rfl⟩ := List.mem_map.1 hentry
  have hmem := ht
  rw [turns_eq] at hmem
  obtain ⟨before, after, hsplit, -, hstart, hfinal⟩ := exists_split hmem
  obtain ⟨hserved, hkept, -⟩ := readCatalogs_reads D R.reads
  -- The table stands neither before its turn nor behind it.
  have honce := R.once
  rw [← entries, hsplit, List.map_append, List.map_cons, List.nodup_middle, List.nodup_cons,
    List.mem_append, not_or] at honce
  obtain ⟨⟨hbefore, hafter⟩, -⟩ := honce
  refine ⟨t, ht, rfl, goes_of_mem hmem, ?_, ?_, ?_⟩
  · rw [hstart, runEntries_service D.source, hserved]
  · rw [hstart, runEntries_content D.target _ hbefore, hkept]
  · rw [R.final_eq, hfinal, runEntries_content D.target _ hafter]

/-- The reports of a run are those on its entries, in their order. -/
theorem tables_flatMap : R.result.tables = R.entries.flatMap (fun e => R.reportsOn e.table) := by
  obtain ⟨hentries, hreports⟩ := R.tables_eq
  rw [← hentries, List.flatMap_map, hreports, List.map_eq_flatMap]
  exact List.flatMap_congr (fun t ht => ((R.of_turn ht).1).symm)

end CompleteRun

/-! ## A sample -/

namespace Sample

/-- A table that both sides have. -/
def towns : Table where
  schema := "public"
  name := "towns"
  columns := [⟨"name", "text", false, none, 1⟩]
  primaryKey := ["name"]

/-- The databases of the sample with one more table on both sides. -/
def state : Memory.State :=
  { Transfer.sampleState with
    source := ⟨"public", [Ferry.Sample.people, towns], by decide⟩
    target := ⟨"public", [Ferry.Sample.guests, towns], by decide⟩ }

/-- A configuration of some tables. -/
def config (tables : List Entry) : Config :=
  { (default : Config) with migration := { Settings.default with tables := tables } }

end Sample

end Ferry.Run
