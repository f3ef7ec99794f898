import Ferry.Proofs.Backend.Stream
import Ferry.Proofs.Transfer.Publication

set_option autoImplicit false

/-! # All or nothing

Transfers between the databases in memory, one by one and one after the other, whatever faults are
to come: what they leave in the target, and what their reports count. -/

namespace Ferry.Transfer

open Memory (State stream)

/-! ## What is left -/

/-- The two ways in which a transfer ends. Either the rows of the batches up to the first empty one
    are in the target table, adapted, and the report counts what was read and written; or what was
    published is what it was, and the report counts what was read and nothing as written. -/
inductive Ends (plan : Plan) (source target : Table) (batchSize : Nat) (s : State)
    (steps : List Step) : TableReport → State → Prop
  | landed {job rows s'} (hjob : Job.ofPlan plan source target batchSize = .ok job)
      (hread : handedOut steps = stream (s.batchesFor job.request))
      (hadapt : job.adapt (handedOut steps).flatten = .ok rows)
      (hcontents : s'.contents = s.contents.filled plan.mode target.name rows) :
      Ends plan source target batchSize s steps
        (.succeeded plan.table (handedOut steps).flatten.length (counted steps) 0) s'
  | abandoned {error s'}
      (hread : ∀ job, Job.ofPlan plan source target batchSize = .ok job →
        handedOut steps <+: stream (s.batchesFor job.request))
      (hcontents : s'.contents = s.contents) :
      Ends plan source target batchSize s steps
        (.failed plan.table error (handedOut steps).flatten.length 0) s'

theorem run_ends (plan : Plan) (source target : Table) (batchSize : Nat) (s : State) :
    Ends plan source target batchSize s (trace Memory.backend plan source target batchSize s)
      (run Memory.backend plan source target batchSize s).1
      (run Memory.backend plan source target batchSize s).2 := by
  rcases run_cases Memory.backend plan source target batchSize s with
    ⟨e, hjob, htrace, hrun⟩ | ⟨job, outcome, t, s', hjob, hmoves, hrun⟩
  · rw [htrace, hrun]
    refine .abandoned (fun job hok => ?_) rfl
    rw [hjob] at hok
    cases hok
  · -- The report and the contents depend on the outcome alone.
    have hread := hmoves.reads_stream Memory.serves
    have hpublished := hmoves.published Memory.publication
    have htally := hmoves.tally
    subst htally
    rw [hrun]
    cases outcome with
    | error e =>
        refine .abandoned (fun other hother => ?_) hpublished
        cases hjob.symm.trans hother
        exact hread.1
    | ok u =>
        obtain ⟨hstaged, hadapt⟩ := hmoves.worked
        refine .landed hjob (hread.2 rfl) hadapt ?_
        obtain ⟨columns, -, rfl⟩ := Job.ofPlan_eq_ok_iff.1 hjob
        rw [hstaged] at hpublished
        exact hpublished.trans (Memory.Contents.applyAll_filling ..)

/-! ## One transfer after the other -/

section
variable {σ : Type} (b : Backend σ) (engine : Engine) (plan : Plan) (source target : Table) (s : σ)

/-- What an engine reports and leaves does not depend on its counter. -/
theorem Engine.run_eq : engine.run b plan source target s
    = ((Transfer.run b plan source target engine.batchSize s).1,
        (engine.run b plan source target s).2.1,
        (Transfer.run b plan source target engine.batchSize s).2) := rfl

/-- The counter gains the rows that the report counts as written, and a table that failed has none
    of them. -/
theorem Engine.toNat_rowsTransferred_run :
    (engine.run b plan source target s).2.1.rowsTransferred.toNat
      = (engine.rowsTransferred.toNat + (engine.run b plan source target s).1.rowsWritten)
          % UInt64.size := by
  unfold Engine.run Engine.after
  rcases transfer b plan source target engine.batchSize s with ⟨e | u, tally, s'⟩
  · exact (Nat.mod_eq_of_lt engine.rowsTransferred.toNat_lt).symm
  · show (engine.rowsTransferred + UInt64.ofNat tally.rowsWritten).toNat = _
    rw [UInt64.toNat_add, UInt64.toNat_ofNat']
    exact Nat.add_mod_mod ..

end

/-- A table to move: its plan, the tables on both sides, and where its rows come from. -/
structure Assignment where
  plan : Plan
  source : Table
  target : Table
  feed : Memory.Feed

/-- Move the table of an assignment. -/
def Assignment.run (a : Assignment) (engine : Engine) (s : State) : TableReport × Engine × State :=
  engine.run Memory.backend a.plan a.source a.target { s with feed := a.feed }

/-- The steps of moving it. -/
def Assignment.trace (a : Assignment) (engine : Engine) (s : State) : List Step :=
  Transfer.trace Memory.backend a.plan a.source a.target engine.batchSize { s with feed := a.feed }

/-- Move tables one after the other, with one engine and between the same databases. -/
def runAll (engine : Engine) : List Assignment → State → List TableReport × Engine × State
  | [], s => ([], engine, s)
  | a :: rest, s =>
    let (report, engine, s) := a.run engine s
    let (reports, engine, s) := runAll engine rest s
    (report :: reports, engine, s)

/-- The steps of moving each of them. -/
def traceAll (engine : Engine) : List Assignment → State → List (List Step)
  | [], _ => []
  | a :: rest, s =>
    let (_, after, left) := a.run engine s
    a.trace engine s :: traceAll after rest left

/-- The steps of the transfers that were committed. -/
def committed (traces : List (List Step)) : List Step := (traces.filter (did .commit)).flatten

/-- The rows that the reports of tables that succeeded count as written, in all. -/
def totalReported (reports : List TableReport) : Nat :=
  (reports.filter (fun r => r.status == .succeeded)).foldr (fun r n => r.rowsWritten + n) 0

section
variable {r : TableReport} {reports : List TableReport} {steps : List Step}
  {traces : List (List Step)}

theorem totalReported_cons (h : r.status = .succeeded ∨ r.rowsWritten = 0) :
    totalReported (r :: reports) = r.rowsWritten + totalReported reports := by
  by_cases hstatus : r.status = .succeeded
  · simp [totalReported, hstatus]
  · simp [totalReported, hstatus, h.resolve_left hstatus]

theorem committed_cons : committed (steps :: traces)
    = (if did .commit steps then steps else []) ++ committed traces := by
  by_cases hdone : did .commit steps <;> simp [committed, hdone]

end

/-- Moving a table publishes the changes of its transaction if that was committed, and nothing
    otherwise; the report counts its rows likewise. -/
theorem Assignment.run_published (a : Assignment) (engine : Engine) (s : State) :
    (a.run engine s).2.2.contents = s.contents.applyAll
        (staged (if did .commit (a.trace engine s) then a.trace engine s else [])) ∧
      ((a.run engine s).1.status = .succeeded ∨ (a.run engine s).1.rowsWritten = 0) ∧
      (a.run engine s).1.rowsWritten
        = counted (if did .commit (a.trace engine s) then a.trace engine s else []) := by
  obtain ⟨hpublished, hstatus, hwritten⟩ :=
    Transfer.run_published Memory.publication a.plan a.source a.target engine.batchSize
      { s with feed := a.feed } (rfl : _ = a.trace engine s)
  rw [Assignment.run, Engine.run_eq]
  by_cases hdone : did .commit (a.trace engine s)
  · rw [if_pos hdone] at hpublished hwritten ⊢
    exact ⟨hpublished, .inl (hstatus.2 hdone), hwritten⟩
  · rw [if_neg hdone] at hpublished hwritten ⊢
    exact ⟨hpublished, .inr hwritten, hwritten⟩

theorem totalReported_runAll (engine : Engine) (work : List Assignment) (s : State) :
    totalReported (runAll engine work s).1 = counted (committed (traceAll engine work s)) := by
  induction work generalizing engine s with
  | nil => rfl
  | cons a rest ih =>
      obtain ⟨-, hnone, hwritten⟩ := a.run_published engine s
      rw [runAll, traceAll, totalReported_cons hnone, committed_cons, counted_append, hwritten, ih]

theorem contents_runAll (engine : Engine) (work : List Assignment) (s : State) :
    (runAll engine work s).2.2.contents
      = s.contents.applyAll (staged (committed (traceAll engine work s))) := by
  induction work generalizing engine s with
  | nil => rfl
  | cons a rest ih =>
      obtain ⟨hpublished, -, -⟩ := a.run_published engine s
      rw [runAll, traceAll, committed_cons, staged_append, Memory.Contents.applyAll_append,
        ← hpublished, ih]

/-- The counter of an engine gains what the reports of the tables that succeeded count. -/
theorem rowsTransferred_runAll (engine : Engine) (work : List Assignment) (s : State) :
    (runAll engine work s).2.1.rowsTransferred.toNat
      = (engine.rowsTransferred.toNat + totalReported (runAll engine work s).1)
          % UInt64.size := by
  induction work generalizing engine s with
  | nil => exact (Nat.mod_eq_of_lt engine.rowsTransferred.toNat_lt).symm
  | cons a rest ih =>
      -- The counter may have wrapped around before the rest is moved; a sum wraps the same way.
      obtain ⟨-, hnone, -⟩ := a.run_published engine s
      have hfirst : (a.run engine s).2.1.rowsTransferred.toNat
          = (engine.rowsTransferred.toNat + (a.run engine s).1.rowsWritten) % UInt64.size :=
        Engine.toNat_rowsTransferred_run ..
      rw [runAll, totalReported_cons hnone, ← Nat.add_assoc, ih, hfirst, Nat.mod_add_mod]

/-- The counter of a new engine starts from zero. -/
theorem rowsTransferred_new (batchSize : Nat) (work : List Assignment) (s : State) :
    (runAll (.new batchSize) work s).2.1.rowsTransferred.toNat
      = rowsTransferred (runAll (.new batchSize) work s).1 := by
  rw [rowsTransferred_runAll]
  show (0 + totalReported _) % UInt64.size = totalReported _ % UInt64.size
  rw [Nat.zero_add]

/-- A table is moved wholly or not at all. However many are moved one after the other by an engine,
    its counter gains the rows that the reports of the tables that succeeded count as written, which
    are those that the target counted in transactions that were committed, and just the changes of
    these have come to the target. -/
theorem all_or_nothing :
    (∀ (engine : Engine) (plan : Plan) (source target : Table) (s : State),
      Ends plan source target engine.batchSize s
        (trace Memory.backend plan source target engine.batchSize s)
        (engine.run Memory.backend plan source target s).1
        (engine.run Memory.backend plan source target s).2.2) ∧
    (∀ (engine : Engine) (work : List Assignment) (s : State),
      (runAll engine work s).2.1.rowsTransferred.toNat
          = (engine.rowsTransferred.toNat + totalReported (runAll engine work s).1)
              % UInt64.size ∧
        totalReported (runAll engine work s).1 = counted (committed (traceAll engine work s)) ∧
        (runAll engine work s).2.2.contents
          = s.contents.applyAll (staged (committed (traceAll engine work s)))) := by
  refine ⟨?_, ?_⟩
  · intro engine plan source target s
    exact run_ends plan source target engine.batchSize s
  · intro engine work s
    exact ⟨rowsTransferred_runAll engine work s, totalReported_runAll engine work s,
      contents_runAll engine work s⟩

end Ferry.Transfer
