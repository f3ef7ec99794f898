import Ferry.Proofs.Backend.Storing
import Ferry.Proofs.Backend.Upsert
import Ferry.Proofs.Run.Complete
import Ferry.Proofs.Schema.Catalog
import Ferry.Proofs.Transfer.Filling

set_option autoImplicit false

/-! # Runs can be repeated

On a target that merges rows by their keys, a run in which nothing fails leaves every table as it
would have left it from the beginning, whatever a run before it has done. What a turn makes of its
table, if it is carried through, is the same in every run: `effect`. A turn that fails leaves the
table as it was, so before the repetition each table is either untouched or has had its effect. The
effect twice is the effect once: a table that is replaced is filled anew, and rows that were merged
change nothing when they are merged once more. -/

namespace Ferry.Run

open Memory (stream)
open Transfer (Job)

variable {σ κ : Type} {b : Backend σ} {storage : Storage κ} {setting : Setting} {config : Config}
  {entry : Entry} {entries : List Entry} {t : Turn σ} {s s' : σ} {name : String}

/-! ## The effect of a turn -/

/-- What a turn that is carried through makes of its table. -/
def effect (storage : Storage κ) (service : Service) (setting : Setting) (entry : Entry) :
    κ → κ :=
  match decide setting entry with
  | .settled _ => id
  | .carryOut plan source target =>
    match Job.ofPlan plan source target setting.batchSize with
    | .error _ => id
    | .ok job =>
      match job.adapt (stream (service.batches job.request)).flatten with
      | .error _ => id
      | .ok rows => job.fill storage rows

/-- A turn leaves its table as it was, or has its effect on it. -/
theorem Turn.Goes.effect_or (D : Databases b storage) (hstorage : storage.RowWise)
    (h : t.Goes b setting) :
    D.target.content t.final t.entry.table = D.target.content t.start t.entry.table ∨
      D.target.content t.final t.entry.table
        = effect storage (D.source.service t.start) setting t.entry
            (D.target.content t.start t.entry.table) := by
  cases h with
  | settled => exact .inl rfl
  | @moved _ _ _ _ _ _ _ outcome _ _ hdecide hjob hmoves =>
      have hown := ((carried_of_decide hdecide).job_tables hjob).2
      cases outcome with
      | error e =>
          have hstored := hmoves.stored D.target
          exact .inl (congrFun hstored _)
      | ok u =>
          obtain ⟨hadapt, hfilled⟩ := hmoves.fills D hstorage
          rw [hown] at hfilled
          simp only [effect, hdecide, hjob, hadapt]
          exact .inr hfilled

/-- A turn in which no call fails has its effect. -/
theorem Turn.Goes.effect_of_succeeded (D : Databases b storage) (hstorage : storage.RowWise)
    (h : t.Goes b setting) (hcalls : ∀ x ∈ t.steps, x.succeeded) :
    D.target.content t.final t.entry.table
      = effect storage (D.source.service t.start) setting t.entry
          (D.target.content t.start t.entry.table) := by
  cases h with
  | settled hdecide => simp only [effect, hdecide, id]
  | @moved _ s _ _ _ job _ outcome _ _ hdecide hjob hmoves =>
      have hown := ((carried_of_decide hdecide).job_tables hjob).2
      simp only [effect, hdecide, hjob]
      cases hadapt : job.adapt (stream ((D.source.service s).batches job.request)).flatten with
      | error e =>
          -- The rows cannot be adapted, so the transfer cannot have worked.
          cases outcome with
          | error e' => exact congrFun (hmoves.stored D.target) _
          | ok u =>
              rw [(hmoves.fills D hstorage).1] at hadapt
              cases hadapt
      | ok rows =>
          cases hmoves.ok_of_adapt D.source hcalls hadapt
          obtain ⟨hwritten, hfilled⟩ := hmoves.fills D hstorage
          cases hwritten.symm.trans hadapt
          rw [hown] at hfilled
          exact hfilled

/-! ## Twice is once -/

theorem fill_fill {plan : Plan} {source target : Table} {batchSize : Nat} {job : Job}
    {rows : List Row} {content : List Record}
    (hjob : Job.ofPlan plan source target batchSize = .ok job)
    (hkeys : keysComparable job.writeTarget rows = true) :
    job.fill upserting rows (job.fill upserting rows content)
      = job.fill upserting rows content := by
  obtain ⟨columns, -, rfl⟩ := Job.ofPlan_eq_ok_iff.1 hjob
  cases hmode : plan.mode with
  | replace => simp only [Job.fill, hmode]
  | merge =>
      have hkey : plan.upsertKey = some plan.conflictKey := by simp only [Plan.upsertKey, hmode]
      simp only [Job.fill, hmode]
      exact upserting_put_put hkey hkeys content

/-- A turn in which no call fails has an effect that is the same when it is had twice. -/
theorem Turn.Goes.effect_effect (D : Databases b upserting) (h : t.Goes b setting)
    (hcalls : ∀ x ∈ t.steps, x.succeeded) (hkeys : ∀ x ∈ t.steps, x.keysComparable = true)
    (content : List Record) :
    effect upserting (D.source.service t.start) setting t.entry
        (effect upserting (D.source.service t.start) setting t.entry content)
      = effect upserting (D.source.service t.start) setting t.entry content := by
  cases h with
  | settled hdecide => simp only [effect, hdecide, id]
  | @moved _ s _ _ _ job _ outcome _ _ hdecide hjob hmoves =>
      simp only [effect, hdecide, hjob]
      cases hadapt : job.adapt (stream ((D.source.service s).batches job.request)).flatten with
      | error e => rfl
      | ok rows =>
          cases hmoves.ok_of_adapt D.source hcalls hadapt
          obtain ⟨hwritten, -⟩ := hmoves.fills D upserting_rowWise
          cases hwritten.symm.trans hadapt
          exact fill_fill hjob (keysComparable_written hmoves.concerns hkeys)

/-! ## The effect of a run -/

variable (setting) in
/-- Whatever fails in a run and wherever it is stopped, it leaves a table as it was or has had the
    effect of its turn. -/
theorem runEntries_effect (D : Databases b storage) (hstorage : storage.RowWise) (s : σ)
    (honce : (entries.map Entry.table).Nodup) (hentry : entry ∈ entries) :
    D.target.content (runEntries b setting entries s).2 entry.table
        = D.target.content s entry.table ∨
      D.target.content (runEntries b setting entries s).2 entry.table
        = effect storage (D.source.service s) setting entry (D.target.content s entry.table) := by
  obtain ⟨report, -, hcomes⟩ :=
    exists_mem_of_forall₂ (forall₂_runEntries D setting s honce).flip hentry
  cases hcomes with
  | leftOut hkept => exact .inl hkept
  | turned hturn hgoes hserved hstart hfinal =>
      subst hturn
      have heffect := hgoes.effect_or D hstorage
      rwa [hserved, hstart, ← hfinal] at heffect

section
variable {stamp : RunStamp} {hash : String} {o : Except MigrationError RunReport}

/-- What is known in a run between the catalogs that are served. -/
def servedSetting (service : Service) (config : Config) : Setting :=
  settingOf config false (service.sourceCatalog config.source.schema)
    (service.targetCatalog config.target.schema)

/-- The order of a run between the catalogs that are served. -/
def servedEntries (service : Service) (config : Config) : List Entry :=
  entriesOf config (service.sourceCatalog config.source.schema)
    (service.targetCatalog config.target.schema)

/-- What any run leaves: the tables that are not in its order as they were, and every other as it
    was or with the effect of its turn. -/
theorem migrate_effect (D : Databases b storage) (hstorage : storage.RowWise)
    (hrun : migrate b config false stamp hash s = (o, s'))
    (honce : ((servedEntries (D.source.service s) config).map Entry.table).Nodup) :
    (∀ name, name ∉ (servedEntries (D.source.service s) config).map Entry.table →
      D.target.content s' name = D.target.content s name) ∧
    ∀ entry ∈ servedEntries (D.source.service s) config,
      D.target.content s' entry.table = D.target.content s entry.table ∨
        D.target.content s' entry.table
          = effect storage (D.source.service s) (servedSetting (D.source.service s) config) entry
              (D.target.content s entry.table) := by
  rcases hcatalogs : readCatalogs b config s with ⟨e | catalogs, ready⟩
  all_goals
    obtain ⟨hserved, hkept, hread⟩ := readCatalogs_reads D hcatalogs
  · rw [migrate_of_error hcatalogs] at hrun
    cases hrun
    exact ⟨fun name _ => congrFun hkept name, fun entry _ => .inl (congrFun hkept entry.table)⟩
  · cases hread _ rfl
    rw [migrate_of_ok hcatalogs] at hrun
    cases hrun
    refine ⟨fun name hname => ?_, fun entry hentry => ?_⟩
    · exact (runEntries_content D.target _ hname).trans (congrFun hkept name)
    · have heffect := runEntries_effect (servedSetting (D.source.service s) config) D hstorage ready
        honce hentry
      rw [hserved, hkept] at heffect
      exact heffect

/-- A run leaves what is served. -/
theorem migrate_service (D : Databases b storage) {dryRun : Bool}
    (hrun : migrate b config dryRun stamp hash s = (o, s')) :
    D.source.service s' = D.source.service s := by
  rcases hcatalogs : readCatalogs b config s with ⟨e | catalogs, ready⟩
  all_goals
    have hserved := (readCatalogs_reads D hcatalogs).1
  · rw [migrate_of_error hcatalogs] at hrun
    cases hrun
    exact hserved
  · rw [migrate_of_ok hcatalogs] at hrun
    cases hrun
    exact (runEntries_service D.source _ _).trans hserved

end

/-! ## Runs in which nothing fails -/

/-- Every table stands in the order once if the configuration has each name once. -/
theorem entriesOf_once {sources targets : Catalog}
    (hconfig : (config.migration.tables.map Entry.table).Nodup) :
    ((entriesOf config sources targets).map Entry.table).Nodup := by
  have hlisted : ((config.migration.tables.filter
      (fun e => !config.migration.excludeTables.contains e.table)).map Entry.table).Nodup :=
    hconfig.sublist (List.filter_sublist.map _)
  rw [entriesOf, order]
  by_cases hidentical : config.migration.includeIdentical = true
  · have hnames : (classify sources targets).identical.Nodup :=
      sources.names_nodup.sublist (List.filter_sublist.map _)
    simp only [hidentical, if_true, List.map_append, List.map_map, Function.comp_def,
      Entry.straightCopy, List.map_id']
    refine List.nodup_append.2 ⟨hlisted, hnames.filter _, ?_⟩
    -- What is added to the listed tables is none of them.
    rintro table hmem _ hadded rfl
    obtain ⟨e, he, rfl⟩ := List.mem_map.1 hmem
    have hfresh := (List.mem_filter.1 hadded).2
    simp only [Bool.and_eq_true, Bool.not_eq_true', List.contains_eq_mem, decide_eq_false_iff_not]
      at hfresh
    exact hfresh.1 (List.mem_map_of_mem (List.mem_filter.1 he).1)
  · simpa only [hidentical, Bool.false_eq_true, if_false, List.append_nil] using hlisted

/-- A run that is not cancelled and in which no call fails. -/
structure FaultlessRun (b : Backend σ) (config : Config) where
  stamp : RunStamp
  hash : String
  start : σ
  result : RunReport
  final : σ
  runs : migrate b config false stamp hash start = (.ok result, final)
  through : result.cancelled = false
  faultless : ∀ x ∈ trace b config false start, x.succeeded

namespace FaultlessRun

/-- The run between two catalogs that have been read. -/
def ofReads (start : σ) {sources targets : Catalog}
    (reads : (readCatalogs b config start).1 = .ok (sources, targets))
    (through : (runEntries b (settingOf config false sources targets)
      (entriesOf config sources targets) (readCatalogs b config start).2).1.1 = false)
    (faultless : (trace b config false start).all Step.succeeded = true) :
    FaultlessRun b config where
  stamp := default
  hash := ""
  start := start
  result := _
  final := _
  runs := migrate_of_ok (Prod.ext reads rfl)
  through := through
  faultless := List.all_eq_true.1 faultless

variable (R : FaultlessRun b config)

/-- Every entry has a turn in which no call fails, and its table is left as that turn leaves it. -/
theorem exists_turn (D : Databases b storage)
    (honce : ((servedEntries (D.source.service R.start) config).map Entry.table).Nodup)
    (hentry : entry ∈ servedEntries (D.source.service R.start) config) :
    ∃ t : Turn σ, t.entry = entry ∧
      t.Goes b (servedSetting (D.source.service R.start) config) ∧
      (∀ x ∈ t.steps, x ∈ trace b config false R.start) ∧
      D.source.service t.start = D.source.service R.start ∧
      D.target.content t.start entry.table = D.target.content R.start entry.table ∧
      D.target.content R.final entry.table = D.target.content t.final entry.table := by
  rcases hcatalogs : readCatalogs b config R.start with ⟨e | catalogs, ready⟩
  · have hrun := R.runs
    rw [migrate_of_error hcatalogs] at hrun
    cases hrun
  · cases (readCatalogs_reads D hcatalogs).2.2 _ rfl
    let C : CompleteRun b :=
      { config := config, stamp := R.stamp, hash := R.hash, start := R.start
        sources := _, targets := _, ready := ready, result := R.result, final := R.final
        reads := hcatalogs, runs := R.runs, through := R.through, once := honce }
    obtain ⟨t, ht, hrest⟩ := C.exists_turn D hentry
    refine ⟨t, hrest.1, hrest.2.1, fun x hx => ?_, hrest.2.2⟩
    rw [trace_eq]
    exact List.mem_append_right _ (List.mem_flatMap.2 ⟨t, ht, hx⟩)

/-- It has the effect of every turn, and of nothing else. -/
theorem content_eq (D : Databases b storage) (hstorage : storage.RowWise)
    (honce : ((servedEntries (D.source.service R.start) config).map Entry.table).Nodup)
    (hentry : entry ∈ servedEntries (D.source.service R.start) config) :
    D.target.content R.final entry.table
      = effect storage (D.source.service R.start)
          (servedSetting (D.source.service R.start) config) entry
          (D.target.content R.start entry.table) := by
  obtain ⟨t, rfl, hgoes, hcalls, hserved, hstart, hfinal⟩ := R.exists_turn D honce hentry
  have heffect := hgoes.effect_of_succeeded D hstorage (fun x hx => R.faultless x (hcalls x hx))
  rw [hserved, hstart] at heffect
  exact hfinal.trans heffect

/-- The effects that it has are the same when they are had twice. -/
theorem effect_effect (D : Databases b upserting)
    (honce : ((servedEntries (D.source.service R.start) config).map Entry.table).Nodup)
    (hkeys : ∀ x ∈ trace b config false R.start, x.keysComparable = true)
    (hentry : entry ∈ servedEntries (D.source.service R.start) config) (content : List Record) :
    effect upserting (D.source.service R.start)
        (servedSetting (D.source.service R.start) config) entry
        (effect upserting (D.source.service R.start)
          (servedSetting (D.source.service R.start) config) entry content)
      = effect upserting (D.source.service R.start)
          (servedSetting (D.source.service R.start) config) entry content := by
  obtain ⟨t, rfl, hgoes, hcalls, hserved, -⟩ := R.exists_turn D honce hentry
  have htwice := hgoes.effect_effect D (fun x hx => R.faultless x (hcalls x hx))
    (fun x hx => hkeys x (hcalls x hx)) content
  rwa [hserved] at htwice

end FaultlessRun

/-! ## Repetition -/

/-- Two states serve the same and hold the same. They may differ in the faults that are to come and
    in whether a stop is requested. -/
structure SameDatabases (D : Databases b storage) (s s' : σ) : Prop where
  service : D.source.service s = D.source.service s'
  content : D.target.content s = D.target.content s'

/-- Runs can be repeated: whatever a first run came to, with calls that failed and tables that were
    not started, a run after it in which nothing fails leaves every table as a single such run from
    the beginning leaves it. The target merges rows by a key of which no value is not-a-number, and
    every table has one entry at most. -/
theorem runs_repeatable (D : Databases b upserting) {before interrupted : σ} {stamp : RunStamp}
    {hash : String} {o : Except MigrationError RunReport}
    (hconfig : (config.migration.tables.map Entry.table).Nodup)
    (hfirst : migrate b config false stamp hash before = (o, interrupted))
    (again single : FaultlessRun b config) (hagain : SameDatabases D again.start interrupted)
    (hsingle : SameDatabases D single.start before)
    (hkeys : ∀ x ∈ trace b config false single.start, x.keysComparable = true) :
    D.target.content again.final = D.target.content single.final := by
  have hserved : D.source.service again.start = D.source.service single.start :=
    hagain.service.trans ((migrate_service D hfirst).trans hsingle.service.symm)
  have honce : ((servedEntries (D.source.service single.start) config).map Entry.table).Nodup := by
    rw [hsingle.service]
    exact entriesOf_once hconfig
  have hbefore := migrate_effect D upserting_rowWise hfirst (by rwa [← hsingle.service])
  rw [← hsingle.service, ← hsingle.content, ← hagain.content] at hbefore
  funext name
  by_cases hname : name ∈ (servedEntries (D.source.service single.start) config).map Entry.table
  · obtain ⟨entry, hentry, rfl⟩ := List.mem_map.1 hname
    rw [single.content_eq D upserting_rowWise honce hentry,
      again.content_eq D upserting_rowWise (by rwa [hserved]) (by rwa [hserved]), hserved]
    -- The table was left as it was, or its effect is had for the second time.
    rcases hbefore.2 entry hentry with hsame | heffect
    · rw [hsame]
    · rw [heffect, single.effect_effect D honce hkeys hentry]
  · have hagain' := migrate_effect D upserting_rowWise again.runs (by rwa [hserved])
    have hsingle' := migrate_effect D upserting_rowWise single.runs honce
    rw [hagain'.1 name (by rwa [hserved]), hsingle'.1 name hname, hbefore.1 name hname]

/-! ## A failure and a repetition -/

namespace Sample

/-- The databases in memory with a target that merges rows. -/
abbrev merging : Backend (Memory.State × (String → List Record)) :=
  Memory.backend.storing upserting

/-- One table is merged, and one is replaced. -/
def both : Config := Sample.config [.straightCopy "towns", Ferry.Sample.entry]

/-- Two rows of the first table share a key. -/
def crowded : Memory.State :=
  { state with
    feed := .tables
      [("people", [[.int 1, .text "Ada", .null], [.int 1, .null, .text "Rome"]]),
        ("towns", [[.text "Rome"]])] }

/-- The target holds one record already. -/
def held : String → List Record := fun table =>
  if table = "people" then [Record.ofRow ["id", "full_name"] [.int 1, .text "Eve"]] else []

/-- In the first run one table cannot be committed. -/
def uncommitted : Memory.State :=
  { crowded with
    faults := [⟨.commit, some "people", none, .fail (.transfer "people" "disk full"), 0⟩] }

/-- What the first run leaves in the target. -/
def halfway : String → List Record :=
  (migrate merging both false default "" (uncommitted, held)).2.2

def againRun : FaultlessRun merging both :=
  .ofReads (crowded, halfway) rfl (by decide +kernel) (by decide +kernel)

def singleRun : FaultlessRun merging both :=
  .ofReads (crowded, held) rfl (by decide +kernel) (by decide +kernel)

end Sample

theorem sample_runs_repeatable :
    (Sample.halfway "people").map (fun r => (r "full_name").display) = ["Eve"] ∧
      (Sample.againRun.final.2 "people").map (fun r => (r "full_name").display) = ["NULL"] ∧
      Sample.againRun.final.2 = Sample.singleRun.final.2 := by
  refine ⟨by decide +kernel, by decide +kernel, ?_⟩
  have hfirst : migrate Sample.merging Sample.both false default ""
      (Sample.uncommitted, Sample.held) = (_, _, Sample.halfway) := rfl
  have hserved := migrate_service (Memory.serves.storing upserting) hfirst
  exact runs_repeatable (Memory.serves.storing upserting) (by decide) hfirst
    Sample.againRun Sample.singleRun ⟨hserved.symm, rfl⟩ ⟨rfl, rfl⟩
    (List.all_eq_true.1 (by decide +kernel))

end Ferry.Run
