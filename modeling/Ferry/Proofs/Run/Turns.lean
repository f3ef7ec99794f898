import Ferry.Proofs.Plan.Meaning
import Ferry.Proofs.Transfer.Job
import Ferry.Proofs.Transfer.Steps
import Ferry.Run

set_option autoImplicit false

/-! # The turns of a run

A run moves its tables one by one, and each of them has its turn: a `Turn` holds the state before
it, the report, the calls that were made and the state after it. `turns` are those of a run until it
is stopped. Its reports and calls are read off them (`runEntries_eq`, `trace_eq`), and what came
before a turn and behind it is a run of other entries (`exists_split`). -/

namespace Ferry

theorem Catalog.get?_name {c : Catalog} {name : String} {t : Table} (h : c.get? name = some t) :
    t.name = name := by
  have ht := List.find?_some h
  exact beq_iff_eq.1 ht

theorem Plan.ofEntry_table {entry : Entry} {source target : Table} (h : source.name = entry.table) :
    (Plan.ofEntry entry source target).table = entry.table := by
  unfold Plan.ofEntry
  by_cases hauthored : entry.isAuthored
  · simp only [if_pos hauthored]
  · simp only [if_neg hauthored]
    exact h

namespace Run

/-! ## Decisions -/

/-- The ways in which an entry is decided about. -/
inductive Decides (setting : Setting) (entry : Entry) : Decision → Prop
  | sourceMissing (hsource : setting.source.get? entry.table = none) :
      Decides setting entry (.settled (.skipped entry.table "table not found in source"))
  | targetMissing {source} (hsource : setting.source.get? entry.table = some source)
      (htarget : setting.target.get? entry.table = none) :
      Decides setting entry (.settled (.skipped entry.table "table not found in target"))
  | unmapped {source target} (hsource : setting.source.get? entry.table = some source)
      (htarget : setting.target.get? entry.table = some target)
      (hunmapped : (!entry.isAuthored && !setting.classification.isIdentical entry.table) = true) :
      Decides setting entry
        (.settled (.skipped entry.table "schemas differ and no column mapping is configured"))
  | refused {source target e} (hsource : setting.source.get? entry.table = some source)
      (htarget : setting.target.get? entry.table = some target)
      (hmapped : (!entry.isAuthored && !setting.classification.isIdentical entry.table) = false)
      (hcheck : (Plan.ofEntry entry source target).check source target = .error e) :
      Decides setting entry (.settled (.failed entry.table e.message 0 0))
  | announced {source target} (hsource : setting.source.get? entry.table = some source)
      (htarget : setting.target.get? entry.table = some target)
      (hmapped : (!entry.isAuthored && !setting.classification.isIdentical entry.table) = false)
      (hcheck : (Plan.ofEntry entry source target).check source target = .ok ())
      (hdry : setting.dryRun = true) :
      Decides setting entry (.settled
        (.skipped entry.table ("dry run: " ++ (Plan.ofEntry entry source target).describe)))
  | carried {source target} (hsource : setting.source.get? entry.table = some source)
      (htarget : setting.target.get? entry.table = some target)
      (hmapped : (!entry.isAuthored && !setting.classification.isIdentical entry.table) = false)
      (hcheck : (Plan.ofEntry entry source target).check source target = .ok ())
      (hdry : setting.dryRun = false) :
      Decides setting entry (.carryOut (Plan.ofEntry entry source target) source target)

theorem decide_decides (setting : Setting) (entry : Entry) :
    Decides setting entry (decide setting entry) := by
  cases hsource : setting.source.get? entry.table with
  | none =>
      simp only [decide, hsource]
      exact .sourceMissing hsource
  | some source =>
  cases htarget : setting.target.get? entry.table with
  | none =>
      simp only [decide, hsource, htarget]
      exact .targetMissing hsource htarget
  | some target =>
  cases hmapped : (!entry.isAuthored && !setting.classification.isIdentical entry.table) with
  | true =>
      simp only [decide, hsource, htarget, hmapped, if_true]
      exact .unmapped hsource htarget hmapped
  | false =>
  simp only [decide, hsource, htarget, hmapped, Bool.false_eq_true, if_false]
  cases hcheck : (Plan.ofEntry entry source target).check source target with
  | error e => exact .refused hsource htarget hmapped hcheck
  | ok u =>
      cases hdry : setting.dryRun with
      | true => exact .announced hsource htarget hmapped hcheck hdry
      | false => exact .carried hsource htarget hmapped hcheck hdry

variable {σ : Type} {b : Backend σ} {setting : Setting} {entry : Entry} {entries : List Entry}
  {s : σ} {plan : Plan} {source target : Table} {report : TableReport}

/-- What is known when an entry is to be carried out. -/
structure Carried (setting : Setting) (entry : Entry) (plan : Plan) (source target : Table) :
    Prop where
  in_source : setting.source.get? entry.table = some source
  in_target : setting.target.get? entry.table = some target
  plan_eq : plan = Plan.ofEntry entry source target
  sound : plan.Sound source target

theorem carried_of_decide (h : decide setting entry = .carryOut plan source target) :
    Carried setting entry plan source target := by
  have hdecides := decide_decides setting entry
  rw [h] at hdecides
  cases hdecides with
  | carried hsource htarget _ hcheck =>
      exact ⟨hsource, htarget, rfl, Plan.check_eq_ok_iff.1 hcheck⟩

theorem Carried.source_name (h : Carried setting entry plan source target) :
    source.name = entry.table := Catalog.get?_name h.in_source

theorem Carried.target_name (h : Carried setting entry plan source target) :
    target.name = entry.table := Catalog.get?_name h.in_target

theorem Carried.plan_table (h : Carried setting entry plan source target) :
    plan.table = entry.table := by
  rw [h.plan_eq]
  exact Plan.ofEntry_table h.source_name

/-- A report that was decided on is about the table of its entry. -/
theorem table_of_settled (h : decide setting entry = .settled report) :
    report.table = entry.table := by
  have hdecides := decide_decides setting entry
  rw [h] at hdecides
  cases hdecides <;> rfl

/-! ## Turns -/

/-- The turn of one entry in a run. -/
structure Turn (σ : Type) where
  entry : Entry
  /-- The state before it. -/
  start : σ
  report : TableReport
  /-- The calls that were made for it. -/
  steps : List Step
  /-- The state after it. -/
  final : σ

/-- The turn that an entry has in a state. -/
def Turn.of (b : Backend σ) (setting : Setting) (entry : Entry) (s : σ) : Turn σ where
  entry := entry
  start := s
  report := (runEntry b setting entry s).1
  steps := (runEntry b.traced setting entry (s, [])).2.2
  final := (runEntry b setting entry s).2

/-- The turns of a list of entries, until a stop is requested. -/
def turns (b : Backend σ) (setting : Setting) : List Entry → σ → List (Turn σ)
  | [], _ => []
  | entry :: rest, s =>
    if b.stopRequested s then []
    else Turn.of b setting entry s :: turns b setting rest (Turn.of b setting entry s).final

theorem Turn.of_settled (h : decide setting entry = .settled report) :
    Turn.of b setting entry s = ⟨entry, s, report, [], s⟩ := by
  simp only [Turn.of, runEntry, h]

theorem Turn.of_carryOut (h : decide setting entry = .carryOut plan source target) :
    Turn.of b setting entry s
      = ⟨entry, s, (Transfer.run b plan source target setting.batchSize s).1,
          Transfer.trace b plan source target setting.batchSize s,
          (Transfer.run b plan source target setting.batchSize s).2⟩ := by
  simp only [Turn.of, runEntry, h]
  rfl

theorem runEntry_traced (b : Backend σ) (setting : Setting) (entry : Entry) (s : σ)
    (calls : List Step) :
    runEntry b.traced setting entry (s, calls)
      = ((runEntry b setting entry s).1, (runEntry b setting entry s).2,
          calls ++ (Turn.of b setting entry s).steps) := by
  cases h : decide setting entry with
  | settled report =>
      rw [Turn.of_settled h]
      simp only [runEntry, h, List.append_nil]
  | carryOut plan source target =>
      rw [Turn.of_carryOut h]
      simp only [runEntry, h, Transfer.run_traced]

/-- Writing the calls down changes nothing, and they are those of the turns. -/
theorem runEntries_traced (b : Backend σ) (setting : Setting) (entries : List Entry) (s : σ)
    (calls : List Step) :
    runEntries b.traced setting entries (s, calls)
      = ((runEntries b setting entries s).1, (runEntries b setting entries s).2,
          calls ++ (turns b setting entries s).flatMap Turn.steps) := by
  induction entries generalizing s calls with
  | nil => simp [runEntries, turns]
  | cons entry rest ih =>
      by_cases hstop : b.stopRequested s
      · simp [runEntries, turns, hstop]
      · simp only [runEntries, turns, hstop, runEntry_traced, ih]
        simp [Turn.of]

/-- The reports of a run are those of its turns, and behind them the entries that it left out. -/
theorem runEntries_eq (b : Backend σ) (setting : Setting) (entries : List Entry) (s : σ) :
    ∃ rest, entries = (turns b setting entries s).map Turn.entry ++ rest ∧
      (runEntries b setting entries s).1
        = (!rest.isEmpty, (turns b setting entries s).map Turn.report ++ rest.map notStarted) := by
  induction entries generalizing s with
  | nil => exact ⟨[], rfl, rfl⟩
  | cons entry rest ih =>
      by_cases hstop : b.stopRequested s
      · exact ⟨entry :: rest, by simp [turns, hstop], by simp [runEntries, turns, hstop]⟩
      · obtain ⟨left, hentries, hreports⟩ := ih (runEntry b setting entry s).2
        refine ⟨left, ?_, ?_⟩
        · simpa [turns, hstop, Turn.of] using hentries
        · simp [runEntries, turns, hstop, Turn.of, hreports]

theorem runEntries_of_not_cancelled (h : (runEntries b setting entries s).1.1 = false) :
    (turns b setting entries s).map Turn.entry = entries ∧
      (runEntries b setting entries s).1.2 = (turns b setting entries s).map Turn.report := by
  obtain ⟨rest, hentries, hreports⟩ := runEntries_eq b setting entries s
  have hrest : rest = [] := by simpa [hreports] using h
  rw [hrest, List.append_nil] at hentries
  exact ⟨hentries.symm, by simp [hreports, hrest]⟩

/-- Before a turn and behind it the run is one of the entries that stand there. -/
theorem exists_split {t : Turn σ} (h : t ∈ turns b setting entries s) :
    ∃ before after, entries = before ++ t.entry :: after ∧
      t = Turn.of b setting t.entry t.start ∧
      t.start = (runEntries b setting before s).2 ∧
      (runEntries b setting entries s).2 = (runEntries b setting after t.final).2 := by
  induction entries generalizing s with
  | nil => cases h
  | cons entry rest ih =>
      by_cases hstop : b.stopRequested s
      · simp [turns, hstop] at h
      · simp only [turns, hstop, Bool.false_eq_true, if_false, List.mem_cons] at h
        rcases h with rfl | h
        · exact ⟨[], rest, rfl, rfl, rfl, by simp [runEntries, hstop, Turn.of]⟩
        · obtain ⟨before, after, hentries, hturn, hstart, hfinal⟩ := ih h
          refine ⟨entry :: before, after, by rw [hentries]; rfl, hturn, ?_, ?_⟩
          · simpa [runEntries, hstop, Turn.of] using hstart
          · simpa [runEntries, hstop, Turn.of] using hfinal

/-! ## How a turn goes -/

/-- A job of an entry that is carried out reads and writes the table of the entry. -/
theorem Carried.job_tables {batchSize : Nat} {job : Transfer.Job}
    (h : Carried setting entry plan source target)
    (hjob : Transfer.Job.ofPlan plan source target batchSize = .ok job) :
    job.request.table = entry.table ∧ job.writeTarget.table = entry.table := by
  obtain ⟨columns, -, rfl⟩ := Transfer.Job.ofPlan_eq_ok_iff.1 hjob
  exact ⟨h.source_name, h.target_name⟩

/-- The two ways in which a turn goes: it is over as soon as it is decided about, or the table is
    moved. -/
inductive Turn.Goes (b : Backend σ) (setting : Setting) : Turn σ → Prop
  | settled {entry : Entry} {s : σ} {report} (hdecide : decide setting entry = .settled report) :
      Turn.Goes b setting ⟨entry, s, report, [], s⟩
  | moved {entry : Entry} {s : σ} {plan source target job steps outcome tally s'}
      (hdecide : decide setting entry = .carryOut plan source target)
      (hjob : Transfer.Job.ofPlan plan source target setting.batchSize = .ok job)
      (hmoves : Transfer.Moves b job s steps (outcome, tally, s')) :
      Turn.Goes b setting ⟨entry, s, Transfer.report plan.table outcome tally, steps, s'⟩

/-- A plan that is carried out is sound, so there is a job for it. -/
theorem Turn.of_goes (b : Backend σ) (setting : Setting) (entry : Entry) (s : σ) :
    (Turn.of b setting entry s).Goes b setting := by
  cases h : decide setting entry with
  | settled report =>
      rw [Turn.of_settled h]
      exact .settled h
  | carryOut plan source target =>
      obtain ⟨job, hjob⟩ := Transfer.Job.exists_ofPlan_iff.2 (carried_of_decide h).sound.has_read
      rcases Transfer.run_cases b plan source target setting.batchSize s with
        ⟨e, hnone, -⟩ | ⟨job', outcome, tally, s', hjob', hmoves, hrun⟩
      · rw [hnone] at hjob
        cases hjob
      · rw [Turn.of_carryOut h, hrun]
        exact .moved h hjob' hmoves

theorem Turn.Goes.report_table {t : Turn σ} (h : t.Goes b setting) :
    t.report.table = t.entry.table := by
  cases h with
  | settled hdecide => exact table_of_settled hdecide
  | @moved _ _ _ _ _ _ _ outcome _ _ hdecide =>
      rw [← (carried_of_decide hdecide).plan_table]
      cases outcome <;> rfl

/-- A turn that succeeded has moved its table. -/
theorem Turn.Goes.of_succeeded {t : Turn σ} (h : t.Goes b setting)
    (hreport : t.report.status = .succeeded) :
    ∃ source target job tally,
      Carried setting t.entry (Plan.ofEntry t.entry source target) source target ∧
      Transfer.Job.ofPlan (Plan.ofEntry t.entry source target) source target setting.batchSize
        = .ok job ∧
      Transfer.Moves b job t.start t.steps (.ok (), tally, t.final) ∧
      t.report.rowsWritten = tally.rowsWritten := by
  cases h with
  | @settled entry _ report hdecide =>
      have hdecides := decide_decides setting entry
      rw [hdecide] at hdecides
      cases hdecides <;> cases hreport
  | @moved entry _ plan source target job _ outcome tally _ hdecide hjob hmoves =>
      cases outcome with
      | error e => cases hreport
      | ok u =>
          have hcarried := carried_of_decide hdecide
          have hplan : plan = Plan.ofEntry entry source target := hcarried.plan_eq
          subst hplan
          exact ⟨source, target, job, tally, hcarried, hjob, hmoves, rfl⟩

theorem goes_of_mem {t : Turn σ} (h : t ∈ turns b setting entries s) : t.Goes b setting := by
  obtain ⟨-, -, -, hturn, -⟩ := exists_split h
  rw [hturn]
  exact Turn.of_goes ..

/-! ## Whole runs -/

/-- What is known when the tables of a configuration are moved between two catalogs. -/
def settingOf (config : Config) (dryRun : Bool) (source target : Catalog) : Setting :=
  ⟨source, target, classify source target, config.migration.batchSize, dryRun⟩

/-- The entries of a configuration between two catalogs, in their order. -/
def entriesOf (config : Config) (source target : Catalog) : List Entry :=
  order config.migration (classify source target)

/-- The calls by which a run reads the catalogs. -/
def catalogSteps (b : Backend σ) (config : Config) (s : σ) : List Step :=
  (readCatalogs b.traced config (s, [])).2.2

/-- The turns of a run. -/
def turnsOf (b : Backend σ) (config : Config) (dryRun : Bool) (s : σ) : List (Turn σ) :=
  match readCatalogs b config s with
  | (.ok (source, target), s) =>
    turns b (settingOf config dryRun source target) (entriesOf config source target) s
  | (.error _, _) => []

/-- All calls of a run, in order. -/
def trace (b : Backend σ) (config : Config) (dryRun : Bool) (s : σ) : List Step :=
  (migrate b.traced config dryRun default "" (s, [])).2.2

section
variable {config : Config} {dryRun : Bool} {stamp : RunStamp} {hash : String} {s' s'' : σ}
  {sources targets : Catalog} {e : MigrationError} {result : RunReport}

theorem readCatalogs_traced (b : Backend σ) (config : Config) (s : σ) (calls : List Step) :
    readCatalogs b.traced config (s, calls)
      = ((readCatalogs b config s).1, (readCatalogs b config s).2,
          calls ++ catalogSteps b config s) := by
  rcases hsource : b.sourceCatalog config.source.schema s with ⟨e | source, s₁⟩
  · simp only [catalogSteps, readCatalogs, hsource, Call.traced_eq hsource, List.nil_append]
  · rcases htarget : b.targetCatalog config.target.schema s₁ with ⟨e | target, s₂⟩
    · simp only [catalogSteps, readCatalogs, hsource, Call.traced_eq hsource, htarget,
        Call.traced_eq htarget, List.nil_append, List.append_assoc]
    · simp only [catalogSteps, readCatalogs, hsource, Call.traced_eq hsource, htarget,
        Call.traced_eq htarget, List.nil_append, List.append_assoc]

/-- A run that cannot read a catalog ends there. -/
theorem migrate_of_error (h : readCatalogs b config s = (.error e, s')) :
    migrate b config dryRun stamp hash s = (.error e, s') := by
  simp only [migrate, h]

/-- A run that has read the catalogs moves its entries and reports on them. -/
theorem migrate_of_ok (h : readCatalogs b config s = (.ok (sources, targets), s')) :
    migrate b config dryRun stamp hash s
      = (.ok ⟨stamp, hash, dryRun,
            (runEntries b (settingOf config dryRun sources targets)
              (entriesOf config sources targets) s').1.1,
            (runEntries b (settingOf config dryRun sources targets)
              (entriesOf config sources targets) s').1.2⟩,
          (runEntries b (settingOf config dryRun sources targets)
            (entriesOf config sources targets) s').2) := by
  simp only [migrate, h]
  rfl

theorem turnsOf_of_ok (h : readCatalogs b config s = (.ok (sources, targets), s')) :
    turnsOf b config dryRun s = turns b (settingOf config dryRun sources targets)
      (entriesOf config sources targets) s' := by
  simp only [turnsOf, h]

/-- A run reads the catalogs, and then makes the calls of its turns. -/
theorem trace_eq (b : Backend σ) (config : Config) (dryRun : Bool) (s : σ) :
    trace b config dryRun s
      = catalogSteps b config s ++ (turnsOf b config dryRun s).flatMap Turn.steps := by
  have htraced := readCatalogs_traced b config s []
  rcases hcatalogs : readCatalogs b config s with ⟨e | ⟨sources, targets⟩, s'⟩
  · rw [hcatalogs] at htraced
    rw [trace, migrate_of_error htraced]
    simp [turnsOf, hcatalogs]
  · rw [hcatalogs] at htraced
    rw [trace, migrate_of_ok htraced, runEntries_traced, turnsOf_of_ok hcatalogs]
    rfl

/-- The reports of a run that was not cancelled are those of its turns, one for each entry. -/
theorem tables_of_not_cancelled (h : readCatalogs b config s = (.ok (sources, targets), s'))
    (hrun : migrate b config dryRun stamp hash s = (.ok result, s''))
    (hcancelled : result.cancelled = false) :
    (turnsOf b config dryRun s).map Turn.entry = entriesOf config sources targets ∧
      result.tables = (turnsOf b config dryRun s).map Turn.report := by
  rw [migrate_of_ok h] at hrun
  cases hrun
  rw [turnsOf_of_ok h]
  exact runEntries_of_not_cancelled hcancelled

end

end Run

end Ferry
