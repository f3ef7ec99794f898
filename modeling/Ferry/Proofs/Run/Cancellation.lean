import Ferry.Proofs.Run.Complete
import Ferry.Proofs.Transfer.Protocol

set_option autoImplicit false

/-! # Stopping a run

A run that is asked to stop is the run that is never asked, cut behind a table. To compare the two,
`Backend.stoppedWhen` gives a backend whose calls are those of another one, and which is asked to
stop whenever a function says so. Moving a table never looks at that (`Transfer.run_stoppedWhen`),
so the two runs are the same up to the first table in front of which the request is seen
(`exists_cut`). -/

namespace Ferry

/-- The backend with the same calls that is asked to stop in the states of a function. -/
abbrev Backend.stoppedWhen {σ : Type} (b : Backend σ) (stop : σ → Bool) : Backend σ :=
  { b with stopRequested := stop }

/-- The backend with the same calls that is never asked to stop. -/
abbrev Backend.unstoppable {σ : Type} (b : Backend σ) : Backend σ := b.stoppedWhen (fun _ => false)

/-! ## Moving a table -/

namespace Transfer

variable {σ : Type} {b : Backend σ} (stop : σ → Bool) {job : Job} {c : b.Cursor} {k : b.Session}
  {s : σ} {t : Tally} {steps : List Step} {r : Copied b}

/-- What copying leaves behind on the backend that is asked to stop. -/
def Copied.stoppedWhen (r : Copied b) : Copied (b.stoppedWhen stop) :=
  ⟨r.outcome, r.tally, r.cursor, r.session, r.state⟩

theorem Copies.stoppedWhen (h : Copies b job c k t s steps r) :
    Copies (b.stoppedWhen stop) job c k t s steps (r.stoppedWhen stop) := by
  induction h with
  | readFails hread => exact .readFails hread
  | exhausted hread => exact .exhausted hread
  | unadaptable hread hrows hadapt => exact .unadaptable hread hrows hadapt
  | writeFails hread hrows hadapt hwrite => exact .writeFails hread hrows hadapt hwrite
  | round hread hrows hadapt hwrite _ ih => exact .round hread hrows hadapt hwrite ih

theorem copyBatches_stoppedWhen (b : Backend σ) (job : Job) (c : b.Cursor) (k : b.Session)
    (t : Tally) (s : σ) :
    copyBatches (b.stoppedWhen stop) job c k t s
      = (copyBatches b job c k t s).stoppedWhen stop := by
  obtain ⟨steps, hcopies⟩ := copyBatches_copies b job c k t s
  exact ((hcopies.stoppedWhen stop).sound []).1

theorem copyRows_stoppedWhen (b : Backend σ) (job : Job) (c : b.Cursor) (k : b.Session) (s : σ) :
    copyRows (b.stoppedWhen stop) job c k s = (copyRows b job c k s).stoppedWhen stop := by
  unfold copyRows
  cases job.plan.mode with
  | merge => exact copyBatches_stoppedWhen stop b job c k ⟨0, 0⟩ s
  | replace =>
      rcases b.truncate job.writeTarget.schema job.writeTarget.table k s with ⟨e | u, k', s'⟩
      · rfl
      · exact copyBatches_stoppedWhen stop b job c k' ⟨0, 0⟩ s'

theorem transferJob_stoppedWhen (b : Backend σ) (job : Job) (s : σ) :
    transferJob (b.stoppedWhen stop) job s = transferJob b job s := by
  rcases hopen : b.openCursor job.request s with ⟨e | c, s₁⟩
  · simp only [transferJob, hopen]
  rcases hbegin : b.beginSession s₁ with ⟨e | k, s₂⟩
  · simp only [transferJob, hopen, hbegin]
  · simp only [transferJob, hopen, hbegin, copyRows_stoppedWhen, Copied.stoppedWhen]

/-- A request to stop is not looked at while a table is moved. -/
theorem run_stoppedWhen (b : Backend σ) (plan : Plan) (source target : Table) (batchSize : Nat)
    (s : σ) :
    run (b.stoppedWhen stop) plan source target batchSize s
      = run b plan source target batchSize s := by
  rw [run_eq, run_eq]
  unfold transfer
  rcases Job.ofPlan plan source target batchSize with e | job
  · rfl
  · simp only [transferJob_stoppedWhen]

end Transfer

namespace Run

open Transfer (calls did)

variable {σ : Type} {b : Backend σ} {config : Config} {dryRun : Bool} {stamp : RunStamp}
  {hash : String} {setting : Setting} {entry : Entry} {entries : List Entry} {s s' : σ} {t : Turn σ}
  {result : RunReport}

/-! ## Runs that are never stopped -/

theorem runEntry_stoppedWhen (b : Backend σ) (stop : σ → Bool) (setting : Setting) (entry : Entry)
    (s : σ) : runEntry (b.stoppedWhen stop) setting entry s = runEntry b setting entry s := by
  unfold runEntry
  rcases decide setting entry with report | ⟨plan, source, target⟩
  · rfl
  · exact Transfer.run_stoppedWhen stop b plan source target setting.batchSize s

theorem runEntries_unstoppable_cons (b : Backend σ) (setting : Setting) (entry : Entry)
    (rest : List Entry) (s : σ) :
    runEntries b.unstoppable setting (entry :: rest) s
      = (((runEntries b.unstoppable setting rest (runEntry b setting entry s).2).1.1,
          (runEntry b setting entry s).1
            :: (runEntries b.unstoppable setting rest (runEntry b setting entry s).2).1.2),
        (runEntries b.unstoppable setting rest (runEntry b setting entry s).2).2) := by
  simp only [runEntries, Bool.false_eq_true, if_false, runEntry_stoppedWhen]

theorem runEntries_unstoppable_through (b : Backend σ) (setting : Setting) (entries : List Entry)
    (s : σ) : (runEntries b.unstoppable setting entries s).1.1 = false := by
  induction entries generalizing s with
  | nil => rfl
  | cons entry rest ih =>
      rw [runEntries_unstoppable_cons]
      exact ih _

theorem turns_take (b : Backend σ) (setting : Setting) (entries : List Entry) (s : σ) (k : Nat) :
    turns b.unstoppable setting (entries.take k) s
      = (turns b.unstoppable setting entries s).take k := by
  induction entries generalizing s k with
  | nil => rw [List.take_nil, turns, List.take_nil]
  | cons entry rest ih =>
      cases k with
      | zero => rfl
      | succ k => simp only [List.take_succ_cons, turns, Bool.false_eq_true, if_false, ih]

/-- A run that is never stopped has one turn for each entry. -/
theorem turns_entry (b : Backend σ) (setting : Setting) (entries : List Entry) (s : σ) :
    (turns b.unstoppable setting entries s).map Turn.entry = entries :=
  (runEntries_of_not_cancelled (runEntries_unstoppable_through b setting entries s)).1

theorem length_turns (b : Backend σ) (setting : Setting) (entries : List Entry) (s : σ) :
    (turns b.unstoppable setting entries s).length = entries.length := by
  rw [← congrArg List.length (turns_entry b setting entries s), List.length_map]

/-- What a run that is never stopped comes to behind its first entries. -/
theorem runEntries_take (b : Backend σ) (setting : Setting) (entries : List Entry) (s : σ)
    (calls : List Step) (k : Nat) :
    runEntries b.unstoppable.traced setting (entries.take k) (s, calls)
      = ((false, ((turns b.unstoppable setting entries s).take k).map Turn.report),
          (runEntries b.unstoppable setting (entries.take k) s).2,
          calls ++ ((turns b.unstoppable setting entries s).take k).flatMap Turn.steps) := by
  have hthrough := runEntries_unstoppable_through b setting (entries.take k) s
  obtain ⟨-, hreports⟩ := runEntries_of_not_cancelled hthrough
  rw [runEntries_traced, ← turns_take, ← hreports, ← hthrough]

/-! ## Where a run is cut -/

/-- A run goes on as if it was never stopped up to the first entry in front of which it sees that it
    is to stop; there it leaves out all that are left. -/
theorem exists_cut (b : Backend σ) (stop : σ → Bool) (setting : Setting) (entries : List Entry)
    (s : σ) :
    ∃ k ≤ entries.length,
      runEntries (b.stoppedWhen stop) setting entries s
        = ((Decidable.decide (k < entries.length),
            (runEntries b.unstoppable setting (entries.take k) s).1.2
              ++ (entries.drop k).map notStarted),
          (runEntries b.unstoppable setting (entries.take k) s).2) ∧
      (∀ j < k, stop (runEntries b.unstoppable setting (entries.take j) s).2 = false) ∧
      (k < entries.length →
        stop (runEntries b.unstoppable setting (entries.take k) s).2 = true) := by
  induction entries generalizing s with
  | nil => exact ⟨0, Nat.le_refl 0, rfl, by simp, by simp⟩
  | cons entry rest ih =>
      cases hstop : stop s with
      | true =>
          refine ⟨0, Nat.zero_le _, ?_, by simp, fun _ => hstop⟩
          simp [runEntries, hstop]
      | false =>
          obtain ⟨k, hk, hcut, hstarted, hstopped⟩ := ih (runEntry b setting entry s).2
          refine ⟨k + 1, Nat.succ_le_succ hk, ?_, fun j hj => ?_, fun hlt => ?_⟩
          · simp only [runEntries, hstop, Bool.false_eq_true, if_false, runEntry_stoppedWhen, hcut]
            simp [runEntries_unstoppable_cons]
          · cases j with
            | zero => exact hstop
            | succ j =>
                rw [List.take_succ_cons, runEntries_unstoppable_cons]
                exact hstarted j (Nat.lt_of_succ_lt_succ hj)
          · rw [List.take_succ_cons, runEntries_unstoppable_cons]
            exact hstopped (Nat.lt_of_succ_lt_succ hlt)

/-! ## How a run ends -/

/-- A table was left out because the run was cancelled. -/
def LeftOut (r : TableReport) : Prop := r.status = .skipped ∧ r.detail = some "cancelled"

instance : DecidablePred LeftOut := fun _ => inferInstanceAs (Decidable (_ ∧ _))

/-- What is reported on a table that the run came to is never that it was left out. -/
theorem Turn.Goes.not_leftOut (h : t.Goes b setting) : ¬ LeftOut t.report := by
  rintro ⟨-, hdetail⟩
  cases h with
  | @settled entry s report hdecide =>
      have hdecides := decide_decides setting entry
      rw [hdecide] at hdecides
      cases hdecides with
      | refused => cases hdetail
      | announced =>
          have htext := congrArg String.toList (Option.some.inj hdetail)
          rw [String.toList_append] at htext
          cases htext
      | _ => exact absurd (Option.some.inj hdetail) (by decide)
  | @moved entry s plan source target job steps outcome tally s' _ _ hmoves =>
      cases outcome <;> cases hdetail

theorem cancelled_iff (h : migrate b config dryRun stamp hash s = (.ok result, s')) :
    result.cancelled ↔ ∃ r ∈ result.tables, LeftOut r := by
  rcases hcatalogs : readCatalogs b config s with ⟨e | ⟨sources, targets⟩, ready⟩
  · rw [migrate_of_error hcatalogs] at h
    cases h
  rw [migrate_of_ok hcatalogs] at h
  cases h
  obtain ⟨rest, -, hreports⟩ := runEntries_eq b (settingOf config dryRun sources targets)
    (entriesOf config sources targets) ready
  simp only [hreports, List.mem_append, List.mem_map]
  constructor
  · intro hleft
    cases rest with
    | nil => cases hleft
    | cons entry rest => exact ⟨_, .inr ⟨entry, List.mem_cons_self, rfl⟩, rfl, rfl⟩
  · rintro ⟨r, ⟨t, ht, rfl⟩ | ⟨entry, hentry, -⟩, hleft⟩
    · exact absurd hleft (goes_of_mem ht).not_leftOut
    · cases rest with
      | nil => cases hentry
      | cons => rfl

theorem count_pos_iff {status : TableStatus} :
    0 < result.count status ↔ ∃ r ∈ result.tables, r.status = status := by
  simp [RunReport.count, List.length_pos_iff_exists_mem]

/-- A run is cancelled if it left out a table for that, and otherwise it is complete, with errors if
    some table failed. -/
theorem status_eq (h : migrate b config dryRun stamp hash s = (.ok result, s')) :
    result.status =
      if ∃ r ∈ result.tables, LeftOut r then .cancelled
      else if ∃ r ∈ result.tables, r.status = .failed then .completedWithErrors
      else .completed := by
  simp only [RunReport.status, cancelled_iff h, count_pos_iff]

/-! ## Whole runs -/

theorem migrate_of_runs {sources targets : Catalog} {cancelled : Bool}
    {reports : List TableReport} {s'' : σ}
    (hread : readCatalogs b config s = (.ok (sources, targets), s'))
    (hruns : runEntries b (settingOf config dryRun sources targets)
      (entriesOf config sources targets) s' = ((cancelled, reports), s'')) :
    migrate b config dryRun stamp hash s
      = (.ok ⟨stamp, hash, dryRun, cancelled, reports⟩, s'') := by
  rw [migrate_of_ok hread, hruns]

/-- What a run that is never asked to stop leaves behind its first tables: the databases, and the
    calls up to there. -/
def standing (b : Backend σ) (setting : Setting) (entries : List Entry) (start : σ × List Step)
    (k : Nat) : σ × List Step :=
  (runEntries b.unstoppable.traced setting (entries.take k) start).2

theorem runEntries_standing (b : Backend σ) (setting : Setting) (entries : List Entry) (s : σ)
    (calls : List Step) :
    runEntries b.unstoppable.traced setting entries (s, calls)
      = ((false, (turns b.unstoppable setting entries s).map Turn.report),
        standing b setting entries (s, calls) entries.length) := by
  have hall := runEntries_take b setting entries s calls entries.length
  rw [List.take_length, ← length_turns b setting entries s, List.take_length] at hall
  rw [standing, List.take_length, hall]

/-- The run `free` that is never asked to stop is cut behind `k` tables, and what is left of it is
    the run `cut` that is asked to stop. -/
structure CutBehind (b : Backend σ) (stop : σ × List Step → Bool) (config : Config) (dryRun : Bool)
    (entries : List Entry) (left : Nat → σ × List Step) (s : σ) (k : Nat) (cut free : RunReport) :
    Prop where
  /-- The entries in front of which the run was not asked to stop yet are the first `k`. -/
  within : k ≤ entries.length
  started : ∀ j < k, stop (left j) = false
  stopped : k < entries.length → stop (left k) = true
  /-- On these both runs report the same; the others are left out, without rows. -/
  same : cut.tables.take k = free.tables.take k
  left_out : cut.tables.drop k
    = (entries.drop k).map (fun e => ⟨e.table, 0, 0, .skipped, none, some "cancelled", 0⟩)
  /-- The run that is never stopped has one turn for each entry, and makes all the calls of a turn
      before those of the next one. -/
  turns : (turnsOf b.unstoppable config dryRun s).map Turn.entry = entries ∧
    (turnsOf b.unstoppable config dryRun s).map Turn.report = free.tables
  calls : ∀ j, (left j).2
    = catalogSteps b config s ++ ((turnsOf b.unstoppable config dryRun s).take j).flatMap Turn.steps
  /-- A transaction that is begun in a turn is committed or rolled back in it. -/
  ends : ∀ t ∈ turnsOf b.unstoppable config dryRun s,
    Transfer.calls .commit t.steps + Transfer.calls .rollback t.steps
      = if did .beginSession t.steps then 1 else 0

theorem Turn.Goes.ends (h : t.Goes b setting) :
    calls .commit t.steps + calls .rollback t.steps
      = if did .beginSession t.steps then 1 else 0 := by
  cases h with
  | settled => rfl
  | moved _ hjob hmoves => exact (hmoves.protocol hjob).ends

/-- At whatever moment a run is asked to stop, given the databases and the calls so far, it is the
    run that is never asked, cut behind some table: the reports up to that table, the calls and the
    databases that these leave are the same, no call follows, and all later tables are reported as
    left out. The table is the last one that was started before the request. -/
theorem cancellation_cuts (b : Backend σ) (stop : σ × List Step → Bool) (config : Config)
    (dryRun : Bool) (stamp : RunStamp) (hash : String) (s : σ) :
    (∀ e s', readCatalogs b config s = (.error e, s') →
      migrate (b.traced.stoppedWhen stop) config dryRun stamp hash (s, [])
          = (.error e, s', catalogSteps b config s) ∧
        migrate b.unstoppable.traced config dryRun stamp hash (s, [])
          = (.error e, s', catalogSteps b config s)) ∧
    ∀ sources targets ready, readCatalogs b config s = (.ok (sources, targets), ready) →
      let entries := entriesOf config sources targets
      let left := standing b (settingOf config dryRun sources targets) entries
        (ready, catalogSteps b config s)
      ∃ cut free k,
        migrate (b.traced.stoppedWhen stop) config dryRun stamp hash (s, []) = (.ok cut, left k) ∧
        migrate b.unstoppable.traced config dryRun stamp hash (s, [])
          = (.ok free, left entries.length) ∧
        CutBehind b stop config dryRun entries left s k cut free ∧
        cut.status =
          if ∃ r ∈ cut.tables, LeftOut r then .cancelled
          else if ∃ r ∈ cut.tables, r.status = .failed then .completedWithErrors
          else .completed := by
  -- The catalogs are read before anything can be asked, so both runs read the same.
  have htraced := readCatalogs_traced b config s []
  rw [List.nil_append] at htraced
  refine ⟨fun e s' hread => ?_, fun sources targets ready hread => ?_⟩
  · rw [hread] at htraced
    exact ⟨migrate_of_error htraced, migrate_of_error htraced⟩
  rw [hread] at htraced
  intro entries left
  obtain ⟨k, hk, hcut, hstarted, hstopped⟩ := exists_cut b.traced stop
    (settingOf config dryRun sources targets) entries (ready, catalogSteps b config s)
  have hcutRun : migrate (b.traced.stoppedWhen stop) config dryRun stamp hash (s, []) = _ :=
    migrate_of_runs htraced hcut
  have hfreeRun : migrate b.unstoppable.traced config dryRun stamp hash (s, []) = _ :=
    migrate_of_runs htraced (runEntries_standing b (settingOf config dryRun sources targets) entries
      ready (catalogSteps b config s))
  refine ⟨_, _, k, hcutRun, hfreeRun, ?_, status_eq hcutRun⟩
  have htake := runEntries_take b (settingOf config dryRun sources targets) entries ready
    (catalogSteps b config s)
  have hturns : turnsOf b.unstoppable config dryRun s
      = turns b.unstoppable (settingOf config dryRun sources targets) entries ready :=
    turnsOf_of_ok hread
  rw [← hturns] at htake hfreeRun ⊢
  -- The reports of the run that is cut are those of the first turns, and as many as `k`.
  have hreports := congrArg (fun r => r.1.2) (htake k)
  have hcount : (((turnsOf b.unstoppable config dryRun s).take k).map Turn.report).length = k := by
    rw [List.length_map, List.length_take, hturns, length_turns, Nat.min_eq_left hk]
  constructor
  case within => exact hk
  case started => exact hstarted
  case stopped => exact hstopped
  case same =>
    rw [hreports, List.take_append_of_le_length hcount.ge, List.take_of_length_le hcount.le,
      List.map_take]
  case left_out =>
    rw [hreports, List.drop_append_of_le_length hcount.ge, List.drop_of_length_le hcount.le]
    rfl
  case turns => exact ⟨hturns ▸ turns_entry .., rfl⟩
  case calls => exact fun j => congrArg (fun r => r.2.2) (htake j)
  case ends => exact fun t ht => (goes_of_mem (hturns ▸ ht)).ends

/-- The call of a number has begun; zero is the moment before the run. So this asks a run to stop
    during that call. -/
def duringCall (n : Nat) (s : σ × List Step) : Bool := Nat.ble n s.2.length

/-- Two tables, and the run is asked to stop while the first rows of the first one are read. -/
theorem sample_cancellation_cuts :
    let config := Sample.config [Ferry.Sample.entry, .straightCopy "towns"]
    let entries := entriesOf config Sample.state.source Sample.state.target
    ∃ cut free k left,
      (migrate (Memory.backend.traced.stoppedWhen (duringCall 5)) config false default ""
        (Sample.state, [])).1 = .ok cut ∧
      CutBehind Memory.backend (duringCall 5) config false entries left Sample.state k cut free ∧
      cut.status = .cancelled ∧ cut.tables.map TableReport.status = [.succeeded, .skipped] := by
  intro config entries
  obtain ⟨-, hruns⟩ := cancellation_cuts Memory.backend (duringCall 5) config false default ""
    Sample.state
  obtain ⟨cut, free, k, hcut, -, hbehind, -⟩ := hruns _ _ _ rfl
  have hresult : (migrate (Memory.backend.traced.stoppedWhen (duringCall 5)) config false default ""
      (Sample.state, [])).1.toOption.map (fun r => (r.status, r.tables.map TableReport.status))
      = some (.cancelled, [.succeeded, .skipped]) := by decide +kernel
  rw [hcut] at hresult
  obtain ⟨hstatus, htables⟩ := Prod.mk.inj (Option.some.inj hresult)
  exact ⟨cut, free, k, _, congrArg Prod.fst hcut, hbehind, hstatus, htables⟩

end Run

end Ferry
