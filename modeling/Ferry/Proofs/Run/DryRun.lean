import Ferry.Proofs.Pairing
import Ferry.Proofs.Run.Complete

set_option autoImplicit false

/-! # What a dry run foretells

A dry run reads the two catalogs and calls nothing else. It announces a plan for a table just when
a real run between the same catalogs hands the table over and opens a cursor on it; of all other
tables both runs report the same. What is behind it is that both decide about an entry in the same
way until the last step, and that a plan which passed its check finds every column that it reads. -/

namespace Ferry.Run

/-! ## Decisions -/

/-- A report announces what a real run would do. -/
def Announces (r : TableReport) : Prop :=
  r.status = .skipped ∧ ∃ text, r.detail = some ("dry run: " ++ text)

theorem Announces.head {r : TableReport} (h : Announces r) :
    ∃ detail, r.detail = some detail ∧ detail.toList.head? = some 'd' := by
  obtain ⟨-, text, htext⟩ := h
  refine ⟨_, htext, ?_⟩
  rw [String.toList_append]
  rfl

theorem not_announces_of_head {table detail : String} (h : detail.toList.head? ≠ some 'd') :
    ¬ Announces (.skipped table detail) := by
  intro hannounces
  obtain ⟨other, hother, hhead⟩ := hannounces.head
  cases hother
  exact h hhead

/-- How a dry run and a real run decide about an entry: a dry run announces what the real one
    carries out, and every other report is the same. -/
inductive DecidesBoth (setting : Setting) (entry : Entry) : TableReport → Decision → Prop
  | announced {plan source target} (hcarried : Carried setting entry plan source target) :
      DecidesBoth setting entry (.skipped entry.table ("dry run: " ++ plan.describe))
        (.carryOut plan source target)
  | settled {report} (hsilent : ¬ Announces report) :
      DecidesBoth setting entry report (.settled report)

/-- What is known in a dry run. -/
def Setting.dry (setting : Setting) : Setting := { setting with dryRun := true }

theorem decide_both (setting : Setting) (entry : Entry) (hreal : setting.dryRun = false) :
    ∃ report, decide setting.dry entry = .settled report ∧
      DecidesBoth setting entry report (decide setting entry) := by
  have hdecides := decide_decides setting entry
  -- The dry run sees the same tables, so it takes the same way and differs at its end alone.
  generalize hdecision : decide setting entry = decision at hdecides
  cases hdecides with
  | sourceMissing hsource =>
      refine ⟨_, ?_, .settled (not_announces_of_head (by decide))⟩
      simp only [decide, Setting.dry, hsource]
  | targetMissing hsource htarget =>
      refine ⟨_, ?_, .settled (not_announces_of_head (by decide))⟩
      simp only [decide, Setting.dry, hsource, htarget]
  | unmapped hsource htarget hunmapped =>
      refine ⟨_, ?_, .settled (not_announces_of_head (by decide))⟩
      simp only [decide, Setting.dry, hsource, htarget, hunmapped, if_true]
  | refused hsource htarget hmapped hcheck =>
      refine ⟨_, ?_, .settled (fun hannounces => ?_)⟩
      · simp only [decide, Setting.dry, hsource, htarget, hmapped, hcheck, Bool.false_eq_true,
          if_false]
      · obtain ⟨detail, hdetail, -⟩ := hannounces.head
        cases hdetail
  | announced _ _ _ _ hdry =>
      rw [hreal] at hdry
      cases hdry
  | carried hsource htarget hmapped hcheck =>
      refine ⟨_, ?_, .announced (carried_of_decide hdecision)⟩
      simp only [decide, Setting.dry, hsource, htarget, hmapped, hcheck, Bool.false_eq_true,
        if_false, if_true]

/-! ## Turns -/

section
variable {σ : Type} {b : Backend σ} {setting : Setting} {entry : Entry}

/-- Moving a table begins with a cursor on the table of the job. -/
theorem opens_of_moves {job : Transfer.Job} {s s' : σ} {steps : List Step} {t : Transfer.Tally}
    {outcome : Except MigrationError Unit} (h : Transfer.Moves b job s steps (outcome, t, s')) :
    ∃ opened rest, steps = .openCursor job.request opened :: rest := by
  cases h <;> exact ⟨_, _, rfl⟩

/-- A table that is handed over has a cursor opened on it. -/
theorem opens_of_carryOut {plan : Plan} {source target : Table}
    (h : decide setting entry = .carryOut plan source target) (s : σ) :
    ∃ request opened rest, (Turn.of b setting entry s).steps
      = .openCursor request opened :: rest ∧ request.table = entry.table := by
  have hgoes := Turn.of_goes b setting entry s
  have hentry : (Turn.of b setting entry s).entry = entry := rfl
  generalize Turn.of b setting entry s = t at hgoes hentry
  cases hgoes with
  | settled hdecide =>
      cases hentry
      rw [h] at hdecide
      cases hdecide
  | moved hdecide hjob hmoves =>
      cases hentry
      obtain ⟨opened, rest, hsteps⟩ := opens_of_moves hmoves
      exact ⟨_, opened, rest, hsteps, ((carried_of_decide hdecide).job_tables hjob).1⟩

/-- What the report of a table in a dry run says about the turn of that table in a real run. -/
structure Foretells (b : Backend σ) (setting : Setting) (foretold : TableReport) (t : Turn σ) :
    Prop where
  /-- A plan is announced just when the real run opens a cursor on the table. -/
  opens : Announces foretold ↔ ∃ request opened rest,
    t.steps = .openCursor request opened :: rest ∧ request.table = t.entry.table
  /-- The plan that is announced is the one that the real run carries out. -/
  announced : Announces foretold → ∃ source target,
    setting.source.get? t.entry.table = some source ∧
    setting.target.get? t.entry.table = some target ∧
    foretold = .skipped t.entry.table
      ("dry run: " ++ (Plan.ofEntry t.entry source target).describe) ∧
    (t.report, t.final) = Transfer.run b (Plan.ofEntry t.entry source target) source target
      setting.batchSize t.start
  /-- Where none is announced the real run reports the same and makes no call. -/
  silent : ¬ Announces foretold → t.report = foretold ∧ t.steps = [] ∧ t.final = t.start

theorem foretells_turn (b : Backend σ) (s : σ) (hreal : setting.dryRun = false)
    {report : TableReport} (hdry : decide setting.dry entry = .settled report) :
    Foretells b setting report (Turn.of b setting entry s) := by
  obtain ⟨dry, hsettled, hboth⟩ := decide_both setting entry hreal
  cases hdry.symm.trans hsettled
  generalize hdecision : decide setting entry = decision at hboth
  cases hboth with
  | @announced plan source target hcarried =>
      have hannounces : Announces (.skipped entry.table ("dry run: " ++ plan.describe)) :=
        ⟨rfl, _, rfl⟩
      refine ⟨⟨fun _ => opens_of_carryOut hdecision s, fun _ => hannounces⟩, fun _ => ?_,
        fun hsilent => absurd hannounces hsilent⟩
      rw [Turn.of_carryOut hdecision]
      obtain ⟨hsource, htarget, rfl, -⟩ := hcarried
      exact ⟨_, _, hsource, htarget, rfl, rfl⟩
  | settled hsilent =>
      rw [Turn.of_settled hdecision]
      refine ⟨⟨fun hannounces => absurd hannounces hsilent, ?_⟩,
        fun hannounces => absurd hannounces hsilent, fun _ => ⟨rfl, rfl, rfl⟩⟩
      rintro ⟨request, opened, rest, hsteps, -⟩
      cases hsteps

/-! ## Dry runs -/

theorem exists_settled_of_dry (hdry : setting.dryRun = true) (entry : Entry) :
    ∃ report, decide setting entry = .settled report := by
  have hdecides := decide_decides setting entry
  generalize decide setting entry = decision at hdecides
  cases hdecides with
  | carried _ _ _ _ hreal =>
      rw [hdry] at hreal
      cases hreal
  | _ => exact ⟨_, rfl⟩

/-- A dry run makes no call in any turn. -/
theorem turn_of_dry (hdry : setting.dryRun = true) {entries : List Entry} {s : σ} {t : Turn σ}
    (ht : t ∈ turns b setting entries s) :
    decide setting t.entry = .settled t.report ∧ t.steps = [] := by
  obtain ⟨-, -, -, hturn, -⟩ := exists_split ht
  obtain ⟨report, hsettled⟩ := exists_settled_of_dry hdry t.entry
  rw [Turn.of_settled hsettled] at hturn
  rw [hturn]
  exact ⟨hsettled, rfl⟩

theorem state_of_dry (hdry : setting.dryRun = true) (entries : List Entry) (s : σ) :
    (runEntries b setting entries s).2 = s := by
  induction entries with
  | nil => rfl
  | cons entry rest ih =>
      obtain ⟨report, hsettled⟩ := exists_settled_of_dry hdry entry
      have hsame : runEntry b setting entry s = (report, s) := by simp only [runEntry, hsettled]
      by_cases hstop : b.stopRequested s
      · simp only [runEntries, hstop, if_true]
      · simpa only [runEntries, hstop, Bool.false_eq_true, if_false, hsame] using ih

end

/-! ## Whole runs -/

section
variable {σ : Type} {config : Config} {stamp : RunStamp} {hash : String} {sources targets : Catalog}

theorem catalogSteps_kind (b : Backend σ) (config : Config) (s : σ) :
    (catalogSteps b config s).map Step.kind <+: [.sourceCatalog, .targetCatalog] := by
  rcases hsource : b.sourceCatalog config.source.schema s with ⟨e | source, s₁⟩
  · simp [catalogSteps, readCatalogs, Call.traced_eq hsource, Step.kind]
  · rcases htarget : b.targetCatalog config.target.schema s₁ with ⟨e | target, s₂⟩
    all_goals
      simp [catalogSteps, readCatalogs, Call.traced_eq hsource, Call.traced_eq htarget, Step.kind]

/-- A dry run makes no call but the two that read the catalogs, and leaves the databases as these
    leave them. -/
theorem dry_run_reads (b : Backend σ) (config : Config) (stamp : RunStamp) (hash : String) (s : σ) :
    trace b config true s = catalogSteps b config s ∧
      (migrate b config true stamp hash s).2 = (readCatalogs b config s).2 := by
  rw [trace_eq]
  rcases hcatalogs : readCatalogs b config s with ⟨e | ⟨sources, targets⟩, s'⟩
  · rw [migrate_of_error hcatalogs, turnsOf, hcatalogs]
    exact ⟨List.append_nil _, rfl⟩
  · rw [migrate_of_ok hcatalogs, turnsOf_of_ok hcatalogs]
    refine ⟨?_, state_of_dry rfl ..⟩
    have hnone : (turns b (settingOf config true sources targets)
        (entriesOf config sources targets) s').flatMap Turn.steps = [] :=
      List.flatMap_eq_nil_iff.2 (fun t ht => (turn_of_dry rfl ht).2)
    rw [hnone, List.append_nil]

/-- A dry run makes no call but the two that read the catalogs, and leaves the databases as these
    leave them. Between the same catalogs its reports, in order, foretell the turns of a real run,
    on whatever databases and with whatever failures the two take place. -/
theorem dry_run_foretells {τ : Type} (b : Backend σ) (b' : Backend τ) (config : Config)
    (stamp stamp' : RunStamp) (hash hash' : String) (s : σ) (r : τ) :
    (trace b config true s).map Step.kind <+: [.sourceCatalog, .targetCatalog] ∧
    (migrate b config true stamp hash s).2 = (readCatalogs b config s).2 ∧
    ∀ sources targets, (readCatalogs b config s).1 = .ok (sources, targets) →
      (readCatalogs b' config r).1 = .ok (sources, targets) →
      ∃ dry real, (migrate b config true stamp hash s).1 = .ok dry ∧
        (migrate b' config false stamp' hash' r).1 = .ok real ∧
        (dry.cancelled = false → real.cancelled = false →
          real.tables = (turnsOf b' config false r).map Turn.report ∧
          List.Forall₂ (Foretells b' (settingOf config false sources targets)) dry.tables
            (turnsOf b' config false r)) := by
  obtain ⟨htrace, hstate⟩ := dry_run_reads b config stamp hash s
  refine ⟨htrace ▸ catalogSteps_kind b config s, hstate, fun sources targets hdry hreal => ?_⟩
  have hdry : readCatalogs b config s = (.ok (sources, targets), _) := Prod.ext hdry rfl
  have hreal : readCatalogs b' config r = (.ok (sources, targets), _) := Prod.ext hreal rfl
  have hdryRun : migrate b config true stamp hash s = _ := migrate_of_ok hdry
  have hrealRun : migrate b' config false stamp' hash' r = _ := migrate_of_ok hreal
  refine ⟨_, _, congrArg Prod.fst hdryRun, congrArg Prod.fst hrealRun, fun hdone hdone' => ?_⟩
  obtain ⟨hentries, htables⟩ := tables_of_not_cancelled hdry hdryRun hdone
  obtain ⟨hentries', htables'⟩ := tables_of_not_cancelled hreal hrealRun hdone'
  refine ⟨htables', ?_⟩
  -- Turns of one entry stand at the same place in both runs.
  rw [htables, List.forall₂_map_left_iff]
  refine forall₂_of_map_eq (hentries.trans hentries'.symm) (fun d hd t ht hentry => ?_)
  rw [turnsOf_of_ok hdry] at hd
  rw [turnsOf_of_ok hreal] at ht
  obtain ⟨hsettled, -⟩ := turn_of_dry rfl hd
  obtain ⟨-, -, -, hturn, -⟩ := exists_split ht
  rw [hentry] at hsettled
  rw [hturn]
  exact foretells_turn b' t.start rfl hsettled

end

/-- The databases of the sample, where the first write fails. -/
def Sample.unwritable : Memory.State :=
  { Sample.state with
    faults := [⟨.write, none, some 1, .fail (.transfer "people" "disk full"), 0⟩] }

/-- A table that can be moved, and one that is not there. -/
def Sample.withGhosts : Config := Sample.config [Ferry.Sample.entry, .straightCopy "ghosts"]

theorem sample_dry_run_foretells :
    ∃ dry real,
      (migrate Memory.backend Sample.withGhosts true default "" Sample.state).1 = .ok dry ∧
      (migrate Memory.backend Sample.withGhosts false default "" Sample.unwritable).1 = .ok real ∧
      real.tables
        = (turnsOf Memory.backend Sample.withGhosts false Sample.unwritable).map Turn.report ∧
      List.Forall₂ (Foretells Memory.backend
          (settingOf Sample.withGhosts false Sample.state.source Sample.state.target))
        dry.tables (turnsOf Memory.backend Sample.withGhosts false Sample.unwritable) := by
  obtain ⟨-, -, hruns⟩ := dry_run_foretells Memory.backend Memory.backend Sample.withGhosts default
    default "" "" Sample.state Sample.unwritable
  obtain ⟨dry, real, hdry, hreal, hforetells⟩ := hruns _ _ rfl rfl
  have hdone : (migrate Memory.backend Sample.withGhosts true default ""
      Sample.state).1.toOption.map RunReport.cancelled = some false := by decide +kernel
  have hdone' : (migrate Memory.backend Sample.withGhosts false default ""
      Sample.unwritable).1.toOption.map RunReport.cancelled = some false := by decide +kernel
  rw [hdry] at hdone
  rw [hreal] at hdone'
  exact ⟨dry, real, hdry, hreal, hforetells (Option.some.inj hdone) (Option.some.inj hdone')⟩

end Ferry.Run
