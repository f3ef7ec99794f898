import Ferry.Proofs.Backend.Trace
import Ferry.Transfer

set_option autoImplicit false

/-! # The steps of a transfer

Which calls the transfer of one table makes, on any backend. `Copies` says it for the loop over the
batches, with one constructor for each way in which a round can go, `Fills` for the loop with the
emptying before it, and `Moves` for the whole transaction. Each relates the steps to what the
program leaves behind; that the program does leave this behind, with these steps and no others on
the traced backend, is `Copies.sound`, `copyRows_traced` and `transferJob_traced`. Everything
else that is said about a transfer is read off the three relations. -/

namespace Ferry.Transfer

variable {σ : Type} {b : Backend σ} {job : Job}

/-! ## The loop over the batches -/

/-- The tally after a batch has been read. -/
def Tally.read (t : Tally) (rows : List Row) : Tally :=
  { t with rowsRead := t.rowsRead + rows.length }

/-- The tally after a batch has been written. -/
def Tally.wrote (t : Tally) (n : Nat) : Tally := { t with rowsWritten := t.rowsWritten + n }

/-- Copying batches from a cursor into a session makes these steps and leaves this behind. -/
inductive Copies (b : Backend σ) (job : Job) :
    b.Cursor → b.Session → Tally → σ → List Step → Copied b → Prop
  | readFails {c c' k t s s' e} (hread : b.nextBatch c s = (.error e, c', s')) :
      Copies b job c k t s [.nextBatch (.error e)] ⟨.error e, t, c', k, s'⟩
  | exhausted {c c' k t s s'} (hread : b.nextBatch c s = (.ok [], c', s')) :
      Copies b job c k t s [.nextBatch (.ok [])] ⟨.ok (), t, c', k, s'⟩
  | unadaptable {c c' k t s s' rows e} (hread : b.nextBatch c s = (.ok rows, c', s'))
      (hrows : rows ≠ []) (hadapt : job.adapt rows = .error e) :
      Copies b job c k t s [.nextBatch (.ok rows)] ⟨.error e, t.read rows, c', k, s'⟩
  | writeFails {c c' k k' t s s' s'' rows adapted e}
      (hread : b.nextBatch c s = (.ok rows, c', s')) (hrows : rows ≠ [])
      (hadapt : job.adapt rows = .ok adapted)
      (hwrite : b.write job.writeTarget adapted k s' = (.error e, k', s'')) :
      Copies b job c k t s [.nextBatch (.ok rows), .write job.writeTarget adapted (.error e)]
        ⟨.error e, t.read rows, c', k', s''⟩
  | round {c c' k k' t s s' s'' rows adapted n steps r}
      (hread : b.nextBatch c s = (.ok rows, c', s')) (hrows : rows ≠ [])
      (hadapt : job.adapt rows = .ok adapted)
      (hwrite : b.write job.writeTarget adapted k s' = (.ok n, k', s''))
      (rest : Copies b job c' k' ((t.read rows).wrote n) s'' steps r) :
      Copies b job c k t s
        (.nextBatch (.ok rows) :: .write job.writeTarget adapted (.ok n) :: steps) r

/-- What copying leaves behind on the traced backend. -/
def Copied.traced (r : Copied b) (steps : List Step) : Copied b.traced :=
  ⟨r.outcome, r.tally, r.cursor, r.session, (r.state, steps)⟩

/-- One round of the loop, without the measure that bounds it. -/
theorem copyBatches_eq (b : Backend σ) (job : Job) (c : b.Cursor) (k : b.Session) (t : Tally)
    (s : σ) :
    copyBatches b job c k t s =
      match b.nextBatch c s with
      | (.error e, c', s') => ⟨.error e, t, c', k, s'⟩
      | (.ok rows, c', s') =>
        if rows = [] then ⟨.ok (), t, c', k, s'⟩
        else
          match job.adapt rows with
          | .error e => ⟨.error e, t.read rows, c', k, s'⟩
          | .ok adapted =>
            match b.write job.writeTarget adapted k s' with
            | (.error e, k', s'') => ⟨.error e, t.read rows, c', k', s''⟩
            | (.ok n, k', s'') => copyBatches b job c' k' ((t.read rows).wrote n) s'' := by
  -- The definition keeps the outcome of the read as a hypothesis, for the measure.
  rw [copyBatches]
  split
  · next h => simp only [h]
  · next h => simp only [h]; rfl

/-- The loop makes the steps of `Copies` and no others. -/
theorem Copies.sound {c : b.Cursor} {k : b.Session} {t : Tally} {s : σ} {steps : List Step}
    {r : Copied b} (h : Copies b job c k t s steps r) (calls : List Step) :
    copyBatches b job c k t s = r ∧
      copyBatches b.traced job c k t (s, calls) = r.traced (calls ++ steps) := by
  -- Every round leaves more calls behind, so those made before it have to be arbitrary.
  induction h generalizing calls with
  | readFails hread =>
      constructor
      · rw [copyBatches_eq, hread]
      · rw [copyBatches_eq]
        simp only [HandleCall.traced_eq hread]
        rfl
  | exhausted hread =>
      constructor
      · rw [copyBatches_eq, hread]
        simp only [if_true]
      · rw [copyBatches_eq]
        simp only [HandleCall.traced_eq hread, if_true]
        rfl
  | unadaptable hread hrows hadapt =>
      constructor
      · rw [copyBatches_eq, hread]
        simp only [if_neg hrows, hadapt]
      · rw [copyBatches_eq]
        simp only [HandleCall.traced_eq hread, if_neg hrows, hadapt]
        rfl
  | writeFails hread hrows hadapt hwrite =>
      constructor
      · rw [copyBatches_eq, hread]
        simp only [if_neg hrows, hadapt, hwrite]
      · rw [copyBatches_eq]
        simp only [HandleCall.traced_eq hread, if_neg hrows, hadapt, HandleCall.traced_eq hwrite,
          List.append_assoc]
        rfl
  | round hread hrows hadapt hwrite rest ih =>
      constructor
      · rw [copyBatches_eq, hread]
        simp only [if_neg hrows, hadapt, hwrite, (ih calls).1]
      · rw [copyBatches_eq]
        simp only [HandleCall.traced_eq hread, if_neg hrows, hadapt, HandleCall.traced_eq hwrite,
          (ih _).2, List.append_assoc]
        rfl

/-- Copying begins with reading a batch. -/
theorem Copies.reads {c : b.Cursor} {k : b.Session} {t : Tally} {s : σ} {steps : List Step}
    {r : Copied b} (h : Copies b job c k t s steps r) :
    ∃ o c' s' more, b.nextBatch c s = (o, c', s') ∧ steps = .nextBatch o :: more := by
  cases h with
  | readFails hread | exhausted hread | unadaptable hread | writeFails hread | round hread =>
      exact ⟨_, _, _, _, hread, rfl⟩

/-- What the calls of its first round answer determines in which way copying goes. -/
theorem Copies.inv {c : b.Cursor} {k : b.Session} {t : Tally} {s : σ} {steps : List Step}
    {r : Copied b} (h : Copies b job c k t s steps r) :
    match b.nextBatch c s with
    | (.error e, c', s') => steps = [.nextBatch (.error e)] ∧ r = ⟨.error e, t, c', k, s'⟩
    | (.ok rows, c', s') =>
      if rows = [] then steps = [.nextBatch (.ok [])] ∧ r = ⟨.ok (), t, c', k, s'⟩
      else
        match job.adapt rows with
        | .error e => steps = [.nextBatch (.ok rows)] ∧ r = ⟨.error e, t.read rows, c', k, s'⟩
        | .ok adapted =>
          match b.write job.writeTarget adapted k s' with
          | (.error e, k', s'') =>
            steps = [.nextBatch (.ok rows), .write job.writeTarget adapted (.error e)] ∧
              r = ⟨.error e, t.read rows, c', k', s''⟩
          | (.ok n, k', s'') =>
            ∃ more,
              steps = .nextBatch (.ok rows) :: .write job.writeTarget adapted (.ok n) :: more ∧
                Copies b job c' k' ((t.read rows).wrote n) s'' more r := by
  cases h with
  | readFails hread => simp only [hread, and_self]
  | exhausted hread => simp only [hread, if_true, and_self]
  | unadaptable hread hrows hadapt => simp only [hread, if_neg hrows, hadapt, and_self]
  | writeFails hread hrows hadapt hwrite =>
      simp only [hread, if_neg hrows, hadapt, hwrite, and_self]
  | round hread hrows hadapt hwrite rest =>
      simp only [hread, if_neg hrows, hadapt, hwrite]
      exact ⟨_, rfl, rest⟩

/-- However a cursor and a session behave, copying takes one of the ways of `Copies`. -/
theorem copyBatches_copies (b : Backend σ) (job : Job) (c : b.Cursor) (k : b.Session) (t : Tally)
    (s : σ) : ∃ steps, Copies b job c k t s steps (copyBatches b job c k t s) := by
  induction c, k, t, s using copyBatches.induct_unfolding b job with
  | case1 c k t s e c' s' hread => exact ⟨_, .readFails hread⟩
  | case2 c k t s c' s' hread => exact ⟨_, .exhausted hread⟩
  | case3 c k t s rows c' s' hread hrows _ t' e hadapt => exact ⟨_, .unadaptable hread hrows hadapt⟩
  | case4 c k t s rows c' s' hread hrows _ t' adapted hadapt e k' s'' hwrite =>
      exact ⟨_, .writeFails hread hrows hadapt hwrite⟩
  | case5 c k t s rows c' s' hread hrows _ t' adapted hadapt n k' s'' hwrite ih =>
      obtain ⟨steps, rest⟩ := ih
      exact ⟨_, .round hread hrows hadapt hwrite rest⟩

/-! ## Emptying and copying -/

/-- Filling the target table makes these steps and leaves this behind. -/
inductive Fills (b : Backend σ) (job : Job) :
    b.Cursor → b.Session → σ → List Step → Copied b → Prop
  | merges {c k s steps r} (hmode : job.plan.mode = .merge)
      (rest : Copies b job c k ⟨0, 0⟩ s steps r) : Fills b job c k s steps r
  | notEmptied {c k k' s s' e} (hmode : job.plan.mode = .replace)
      (hempty : b.truncate job.writeTarget.schema job.writeTarget.table k s = (.error e, k', s')) :
      Fills b job c k s
        [.truncate job.writeTarget.schema job.writeTarget.table (.error e)]
        ⟨.error (.transfer job.plan.table ("truncate failed: " ++ e.message)), ⟨0, 0⟩, c, k', s'⟩
  | replaces {c k k' s s' steps r} (hmode : job.plan.mode = .replace)
      (hempty : b.truncate job.writeTarget.schema job.writeTarget.table k s = (.ok (), k', s'))
      (rest : Copies b job c k' ⟨0, 0⟩ s' steps r) :
      Fills b job c k s
        (.truncate job.writeTarget.schema job.writeTarget.table (.ok ()) :: steps) r

/-- Filling a table takes one of the ways of `Fills`, with the steps named there. -/
theorem copyRows_traced (b : Backend σ) (job : Job) (c : b.Cursor) (k : b.Session) (s : σ) :
    ∃ steps, Fills b job c k s steps (copyRows b job c k s) ∧
      ∀ calls, copyRows b.traced job c k (s, calls)
        = (copyRows b job c k s).traced (calls ++ steps) := by
  cases hmode : job.plan.mode with
  | merge =>
      obtain ⟨steps, hcopies⟩ := copyBatches_copies b job c k ⟨0, 0⟩ s
      simp only [copyRows, hmode]
      exact ⟨steps, .merges hmode hcopies, fun calls => (hcopies.sound calls).2⟩
  | replace =>
      rcases hempty : b.truncate job.writeTarget.schema job.writeTarget.table k s
        with ⟨e | u, k', s'⟩
      · simp only [copyRows, hmode, hempty, HandleCall.traced_eq hempty]
        exact ⟨_, .notEmptied hmode hempty, fun calls => rfl⟩
      · obtain ⟨steps, hcopies⟩ := copyBatches_copies b job c k' ⟨0, 0⟩ s'
        simp only [copyRows, hmode, hempty, HandleCall.traced_eq hempty]
        refine ⟨_, .replaces hmode hempty hcopies, fun calls => ?_⟩
        rw [(hcopies.sound _).2]
        simp only [List.append_assoc, List.singleton_append]

/-! ## The transaction -/

/-- Moving a table makes these steps and comes to this. The cursor is closed on every way on which
    it was opened, and the session ends on every way on which it was begun. -/
inductive Moves (b : Backend σ) (job : Job) :
    σ → List Step → Except MigrationError Unit × Tally × σ → Prop
  | notOpened {s s' e} (hopen : b.openCursor job.request s = (.error e, s')) :
      Moves b job s [.openCursor job.request (.error e)] (.error e, ⟨0, 0⟩, s')
  | notBegun {c s s₁ s₂ s₃ e closed} (hopen : b.openCursor job.request s = (.ok c, s₁))
      (hbegin : b.beginSession s₁ = (.error e, s₂)) (hclose : b.closeCursor c s₂ = (closed, s₃)) :
      Moves b job s
        [.openCursor job.request (.ok ()), .beginSession (.error e), .closeCursor closed]
        (.error e, ⟨0, 0⟩, s₃)
  | filled {c k s s₁ s₂ s₃ s₄ steps r closed outcome}
      (hopen : b.openCursor job.request s = (.ok c, s₁))
      (hbegin : b.beginSession s₁ = (.ok k, s₂)) (hfill : Fills b job c k s₂ steps r)
      (hdone : r.outcome = .ok ()) (hclose : b.closeCursor r.cursor r.state = (closed, s₃))
      (hcommit : b.commit r.session s₃ = (outcome, s₄)) :
      Moves b job s
        ([.openCursor job.request (.ok ()), .beginSession (.ok ())] ++ steps
          ++ [.closeCursor closed, .commit outcome])
        (outcome, r.tally, s₄)
  | failed {c k s s₁ s₂ s₃ s₄ steps r e closed undone}
      (hopen : b.openCursor job.request s = (.ok c, s₁))
      (hbegin : b.beginSession s₁ = (.ok k, s₂)) (hfill : Fills b job c k s₂ steps r)
      (hfail : r.outcome = .error e) (hclose : b.closeCursor r.cursor r.state = (closed, s₃))
      (hundo : b.rollback r.session s₃ = (undone, s₄)) :
      Moves b job s
        ([.openCursor job.request (.ok ()), .beginSession (.ok ())] ++ steps
          ++ [.closeCursor closed, .rollback undone])
        (.error e, r.tally, s₄)

/-- Moving a table takes one of the ways of `Moves`, with the steps named there. -/
theorem transferJob_traced (b : Backend σ) (job : Job) (s : σ) :
    ∃ steps, Moves b job s steps (transferJob b job s) ∧
      ∀ calls, transferJob b.traced job (s, calls)
        = ((transferJob b job s).1, (transferJob b job s).2.1, (transferJob b job s).2.2,
            calls ++ steps) := by
  rcases hopen : b.openCursor job.request s with ⟨e | c, s₁⟩
  · simp only [transferJob, hopen, Call.traced_eq hopen]
    exact ⟨_, .notOpened hopen, fun calls => rfl⟩
  rcases hbegin : b.beginSession s₁ with ⟨e | k, s₂⟩
  · rcases hclose : b.closeCursor c s₂ with ⟨closed, s₃⟩
    simp only [transferJob, hopen, Call.traced_eq hopen, hbegin, Call.traced_eq hbegin, hclose,
      Call.traced_eq hclose]
    refine ⟨_, .notBegun hopen hbegin hclose, fun calls => ?_⟩
    simp only [List.append_assoc]
    rfl
  obtain ⟨steps, hfill, htraced⟩ := copyRows_traced b job c k s₂
  rcases hr : copyRows b job c k s₂ with ⟨e | u, t, c', k', s₃⟩
  all_goals
    rw [hr] at hfill htraced
    rcases hclose : b.closeCursor c' s₃ with ⟨closed, s₄⟩
  · rcases hundo : b.rollback k' s₄ with ⟨undone, s₅⟩
    simp only [transferJob, hopen, Call.traced_eq hopen, hbegin, Call.traced_eq hbegin, hr, htraced,
      Copied.traced, hclose, Call.traced_eq hclose, hundo, Call.traced_eq hundo]
    refine ⟨_, .failed hopen hbegin hfill rfl hclose hundo, fun calls => ?_⟩
    simp only [List.append_assoc]
    rfl
  · rcases hcommit : b.commit k' s₄ with ⟨outcome, s₅⟩
    simp only [transferJob, hopen, Call.traced_eq hopen, hbegin, Call.traced_eq hbegin, hr, htraced,
      Copied.traced, hclose, Call.traced_eq hclose, hcommit, Call.traced_eq hcommit]
    refine ⟨_, .filled hopen hbegin hfill rfl hclose hcommit, fun calls => ?_⟩
    simp only [List.append_assoc]
    rfl

/-! ## The transfer of a plan -/

/-- The steps of moving one table by a plan, in order. -/
def trace (b : Backend σ) (plan : Plan) (source target : Table) (batchSize : Nat) (s : σ) :
    List Step :=
  (run b.traced plan source target batchSize (s, [])).2.2

theorem run_eq (b : Backend σ) (plan : Plan) (source target : Table) (batchSize : Nat) (s : σ) :
    run b plan source target batchSize s
      = (report plan.table (transfer b plan source target batchSize s).1
            (transfer b plan source target batchSize s).2.1,
          (transfer b plan source target batchSize s).2.2) := rfl

/-- A transfer either makes no call at all, because there is no job for its plan, or moves the
    table of its job. -/
theorem run_cases (b : Backend σ) (plan : Plan) (source target : Table) (batchSize : Nat) (s : σ) :
    (∃ e, Job.ofPlan plan source target batchSize = .error e ∧
      trace b plan source target batchSize s = [] ∧
      run b plan source target batchSize s = (report plan.table (.error e) ⟨0, 0⟩, s)) ∨
    (∃ job outcome tally s', Job.ofPlan plan source target batchSize = .ok job ∧
      Moves b job s (trace b plan source target batchSize s) (outcome, tally, s') ∧
      run b plan source target batchSize s = (report plan.table outcome tally, s')) := by
  rcases hjob : Job.ofPlan plan source target batchSize with e | job
  · refine .inl ⟨e, rfl, ?_, ?_⟩ <;> simp only [trace, run_eq, transfer, hjob]
  · obtain ⟨calls, hmoves, htraced⟩ := transferJob_traced b job s
    rcases hresult : transferJob b job s with ⟨outcome, tally, s'⟩
    rw [hresult] at hmoves htraced
    refine .inr ⟨job, outcome, tally, s', rfl, ?_, ?_⟩
    · simpa only [trace, run_eq, transfer, hjob, htraced, List.nil_append] using hmoves
    · simp only [run_eq, transfer, hjob, hresult]

/-- Writing the calls down changes nothing, and adds the steps to what was written down before. -/
theorem run_traced (b : Backend σ) (plan : Plan) (source target : Table) (batchSize : Nat) (s : σ)
    (calls : List Step) :
    run b.traced plan source target batchSize (s, calls)
      = ((run b plan source target batchSize s).1, (run b plan source target batchSize s).2,
          calls ++ trace b plan source target batchSize s) := by
  rcases hjob : Job.ofPlan plan source target batchSize with e | job
  · simp only [trace, run_eq, transfer, hjob, List.append_nil]
  · obtain ⟨new, -, htraced⟩ := transferJob_traced b job s
    simp only [trace, run_eq, transfer, hjob, htraced, List.nil_append]

end Ferry.Transfer
