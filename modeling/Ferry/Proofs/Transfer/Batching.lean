import Ferry.Proofs.Backend.Reliable
import Ferry.Proofs.Transfer.Engine

set_option autoImplicit false

/-! # Whatever the batches

When no call fails, the rows that come to be written are those that the plan makes of the source
rows, one for each and in their order, however they were cut into batches. -/

namespace Ferry.Transfer

open Memory (State rowsOf chunks stream)

/-! ## Calls that do not fail -/

section
variable {σ : Type} {b : Backend σ} {job : Job} {c : b.Cursor} {k : b.Session} {t : Tally} {s : σ}
  {steps : List Step} {r : Copied b} {Calm : σ → Prop}

theorem Copies.reliable (hb : Reliable b Calm) (h : Copies b job c k t s steps r) (hs : Calm s) :
    (∀ x ∈ steps, x.succeeded) ∧ Calm r.state := by
  induction h with
  | readFails hread => cases (hb.nextBatch hs hread).1
  | exhausted hread | unadaptable hread => exact ⟨by simp, (hb.nextBatch hs hread).2⟩
  | writeFails hread _ _ hwrite => cases (hb.write (hb.nextBatch hs hread).2 hwrite).1
  | round hread _ _ hwrite _ ih =>
      obtain ⟨hrest, hcalm⟩ := ih (hb.write (hb.nextBatch hs hread).2 hwrite).2
      exact ⟨by simpa using hrest, hcalm⟩

theorem Fills.reliable (hb : Reliable b Calm) (h : Fills b job c k s steps r) (hs : Calm s) :
    (∀ x ∈ steps, x.succeeded) ∧ Calm r.state := by
  cases h with
  | merges _ rest => exact rest.reliable hb hs
  | notEmptied _ hempty => cases (hb.truncate hs hempty).1
  | replaces _ hempty rest =>
      obtain ⟨hrest, hcalm⟩ := rest.reliable hb (hb.truncate hs hempty).2
      exact ⟨by simpa using hrest, hcalm⟩

theorem Moves.reliable (hb : Reliable b Calm) {s' : σ} {outcome : Except MigrationError Unit}
    (h : Moves b job s steps (outcome, t, s')) (hs : Calm s) : ∀ x ∈ steps, x.succeeded := by
  cases h with
  | notOpened hopen => cases (hb.openCursor hs hopen).1
  | notBegun hopen hbegin => cases (hb.beginSession (hb.openCursor hs hopen).2 hbegin).1
  | filled hopen hbegin hfill _ hclose hcommit =>
      obtain ⟨hsteps, hfilled⟩ :=
        hfill.reliable hb (hb.beginSession (hb.openCursor hs hopen).2 hbegin).2
      obtain ⟨hclosed, hcalm⟩ := hb.closeCursor hfilled hclose
      simpa [or_imp, forall_and, hclosed, (hb.commit hcalm hcommit).1] using hsteps
  | failed hopen hbegin hfill _ hclose hundo =>
      obtain ⟨hsteps, hfilled⟩ :=
        hfill.reliable hb (hb.beginSession (hb.openCursor hs hopen).2 hbegin).2
      obtain ⟨hclosed, hcalm⟩ := hb.closeCursor hfilled hclose
      simpa [or_imp, forall_and, hclosed, (hb.rollback hcalm hundo).1] using hsteps

/-- While a backend is reliable no call of a transfer fails. -/
theorem trace_succeeded (hb : Reliable b Calm) (plan : Plan) (source target : Table)
    (batchSize : Nat) (hs : Calm s) :
    ∀ x ∈ trace b plan source target batchSize s, x.succeeded := by
  rcases run_cases b plan source target batchSize s with
    ⟨e, -, htrace, -⟩ | ⟨job, outcome, t, s', -, hmoves, -⟩
  · simp [htrace]
  · exact hmoves.reliable hb hs

/-- What is written in a batch comes from a batch that was handed out, and not from an empty one. -/
theorem Copies.mem_written (h : Copies b job c k t s steps r) :
    ∀ out ∈ written steps, ∃ rows ∈ handedOut steps, rows ≠ [] ∧ job.adapt rows = .ok out := by
  induction h with
  | readFails | exhausted | unadaptable => simp [Step.written?]
  | writeFails _ hrows hadapt => simpa [Step.written?, Step.handedOut?] using ⟨hrows, hadapt⟩
  | round _ hrows hadapt _ _ ih =>
      intro out hout
      simp only [written_cons, handedOut_cons, Step.written?, Step.handedOut?, Option.toList_some,
        Option.toList_none, List.nil_append, List.singleton_append, List.mem_cons] at hout ⊢
      rcases hout with rfl | hout
      · exact ⟨_, .inl rfl, hrows, hadapt⟩
      · obtain ⟨rows, hmem, hrest⟩ := ih out hout
        exact ⟨rows, .inr hmem, hrest⟩

theorem Copies.ok_of_succeeded (h : Copies b job c k t s steps r)
    (hcalls : ∀ x ∈ steps, x.succeeded)
    (hadapts : ∀ rows ∈ handedOut steps, ∃ out, job.adapt rows = .ok out) :
    r.outcome = .ok () := by
  induction h with
  | readFails => simp at hcalls
  | exhausted => rfl
  | unadaptable _ _ hadapt =>
      obtain ⟨out, hout⟩ := hadapts _ List.mem_cons_self
      rw [hadapt] at hout
      cases hout
  | writeFails => simp at hcalls
  | round _ _ _ _ _ ih =>
      refine ih (fun x hx => hcalls x (by simp [hx])) (fun rows hrows => hadapts rows ?_)
      simp [hrows]

theorem Fills.mem_written (h : Fills b job c k s steps r) :
    ∀ out ∈ written steps, ∃ rows ∈ handedOut steps, rows ≠ [] ∧ job.adapt rows = .ok out := by
  cases h with
  | merges _ rest => exact rest.mem_written
  | notEmptied => simp [Step.written?]
  | replaces _ _ rest => simpa [Step.written?, Step.handedOut?] using rest.mem_written

theorem Fills.ok_of_succeeded (h : Fills b job c k s steps r)
    (hcalls : ∀ x ∈ steps, x.succeeded)
    (hadapts : ∀ rows ∈ handedOut steps, ∃ out, job.adapt rows = .ok out) :
    r.outcome = .ok () := by
  cases h with
  | merges _ rest => exact rest.ok_of_succeeded hcalls hadapts
  | notEmptied => simp at hcalls
  | replaces _ _ rest =>
      refine rest.ok_of_succeeded (fun x hx => hcalls x (by simp [hx])) (fun rows hrows => ?_)
      exact hadapts rows (by simp [hrows])

theorem Moves.mem_written {s' : σ} {outcome : Except MigrationError Unit}
    (h : Moves b job s steps (outcome, t, s')) :
    ∀ out ∈ written steps, ∃ rows ∈ handedOut steps, rows ≠ [] ∧ job.adapt rows = .ok out := by
  cases h with
  | notOpened | notBegun => simp [Step.written?]
  | filled _ _ hfill | failed _ _ hfill =>
      simpa [Step.written?, Step.handedOut?] using hfill.mem_written

/-- A transfer works if no call fails and every batch that is handed out can be adapted. -/
theorem Moves.ok_of_succeeded {s' : σ} {outcome : Except MigrationError Unit}
    (h : Moves b job s steps (outcome, t, s')) (hcalls : ∀ x ∈ steps, x.succeeded)
    (hadapts : ∀ rows ∈ handedOut steps, ∃ out, job.adapt rows = .ok out) :
    outcome = .ok () := by
  cases h with
  | notOpened | notBegun => simp at hcalls
  | filled =>
      have hcommit := hcalls (.commit outcome) (by simp)
      cases outcome with
      | ok u => rfl
      | error e => cases hcommit
  | failed _ _ hfill hfail =>
      have hok := hfill.ok_of_succeeded (fun x hx => hcalls x (by simp [hx]))
        (fun rows hrows => hadapts rows (by simp [hrows]))
      rw [hfail] at hok
      cases hok

end

/-! ## Picking columns -/

theorem valueAt?_eq_find? (name : String) (names : List String) (row : Row) :
    valueAt? name names row
      = ((names.zip row).find? (fun x => x.1 == name)).map Prod.snd := by
  induction names generalizing row with
  | nil => simp [valueAt?]
  | cons c cs ih =>
      cases row with
      | nil => simp [valueAt?]
      | cons v vs =>
          rw [valueAt?, List.zip_cons_cons, List.find?_cons]
          by_cases hc : c = name
          · simp [hc]
          · rw [if_neg hc, beq_false_of_ne hc, ih]

theorem pick_eq (source : Table) (columns : List Column) (row : Row) :
    Memory.pick source columns row
      = (columns.map Column.name).map (source.valueIn row) := by
  rw [Memory.pick, List.map_map]
  refine List.map_congr_left (fun c _ => ?_)
  rw [Function.comp_apply, Table.valueIn, valueAt?_eq_find?]

/-- The rows of a source table as a plan reads them. -/
def wanted (plan : Plan) (source : Table) (content : List (String × List Row)) : List Row :=
  (rowsOf content source.name).map (fun row => plan.readColumns.map (source.valueIn row))

/-! ## The rows that are written -/

section
variable {plan : Plan} {source target : Table} {batchSize : Nat} {job : Job} {s s' : State}
  {content : List (String × List Row)} {steps : List Step} {t : Tally}
  {outcome : Except MigrationError Unit}

/-- The batches of a job are the columns that it reads of the rows of its table. -/
theorem Job.batches_eq (hjob : Job.ofPlan plan source target batchSize = .ok job)
    (hfeed : s.feed = .tables content) (hsource : s.source.get? source.name = some source) :
    s.batchesFor job.request = chunks (batchSize - 1) (wanted plan source content) := by
  obtain ⟨columns, hcolumns, rfl⟩ := Job.ofPlan_eq_ok_iff.1 hjob
  have hpick : Memory.pick source columns = fun row => plan.readColumns.map (source.valueIn row) :=
    funext (fun row => by rw [pick_eq, names_of_found hcolumns])
  simp only [State.batchesFor, hfeed, hsource, Option.getD_some, hpick]
  rfl

/-- In memory the number of rows that are counted is that of the rows written. -/
theorem Copies.counted_eq {c : Memory.backend.Cursor} {k : Memory.backend.Session}
    {r : Copied Memory.backend} (h : Copies Memory.backend job c k t s steps r)
    (hok : r.outcome = .ok ()) : counted steps = (written steps).flatten.length := by
  induction h with
  | readFails | unadaptable | writeFails => cases hok
  | exhausted => rfl
  | round _ _ _ hwrite _ ih =>
      have hanswer := Memory.write_answer hwrite
      simp [Step.counted?, Step.written?, ih hok, hanswer]

theorem Moves.counted_eq (h : Moves Memory.backend job s steps (.ok (), t, s')) :
    counted steps = (written steps).flatten.length := by
  cases h with
  | filled _ _ hfill hdone =>
      cases hfill with
      | merges _ rest => simpa [Step.counted?, Step.written?] using rest.counted_eq hdone
      | notEmptied => cases hdone
      | replaces _ _ rest => simpa [Step.counted?, Step.written?] using rest.counted_eq hdone

/-- A transfer in which no call fails works and reads all that is wanted, if it can be adapted. -/
theorem Moves.reads_all (h : Moves Memory.backend job s steps (outcome, t, s'))
    (hbatches : s.batchesFor job.request = chunks (batchSize - 1) (wanted plan source content))
    (hcalls : ∀ x ∈ steps, x.succeeded)
    (hadapt : ∀ row ∈ wanted plan source content, ∃ w,
      adaptRow job.plan job.readColumns job.kinds job.writeTarget.columns row = .ok w) :
    outcome = .ok () ∧
      handedOut steps = chunks (batchSize - 1) (wanted plan source content) ++ [[]] := by
  have hserved : (Memory.serves.service s).batches job.request
      = chunks (batchSize - 1) (wanted plan source content) := hbatches
  have hread := h.reads_stream Memory.serves
  rw [hserved, Memory.stream_chunks] at hread
  have hok : outcome = .ok () := by
    refine h.ok_of_succeeded hcalls (fun batch hbatch => Job.exists_adapt (fun row hrow => ?_))
    have hflat := List.mem_flatten_of_mem (hread.1.subset hbatch) hrow
    rw [List.flatten_append, Memory.chunks_flatten] at hflat
    exact hadapt row (by simpa using hflat)
  exact ⟨hok, hread.2 hok⟩

/-- A batch that is written is as long as one that was handed out and is not empty. -/
theorem Moves.batch_sizes (h : Moves Memory.backend job s steps (outcome, t, s'))
    (hread : handedOut steps = chunks (batchSize - 1) (wanted plan source content) ++ [[]]) :
    ∀ batch ∈ written steps, batch ≠ [] ∧ batch.length ≤ Nat.max batchSize 1 := by
  intro batch hbatch
  obtain ⟨rows, hmem, hne, hrows⟩ := h.mem_written batch hbatch
  have hchunk : rows ∈ chunks (batchSize - 1) (wanted plan source content) := by
    rw [hread] at hmem
    simpa [hne] using hmem
  have hlength := (Job.adapt_eq_ok_iff.1 hrows).length_eq
  have hbound := Memory.length_le_of_mem_chunks hchunk
  refine ⟨?_, ?_⟩
  · rintro rfl
    exact hne (List.eq_nil_of_length_eq_zero hlength)
  · show batch.length ≤ max batchSize 1
    omega

end

/-- The rows that come to be written, in order, are those that a checked plan makes of the rows of
    the source table, one for each, whatever the size of the batches; no batch that is written is
    empty or too large, and the report counts every row as read and as written. -/
theorem rows_as_planned (plan : Plan) (source target : Table) (content : List (String × List Row))
    (hcheck : plan.check source target = .ok ())
    (hadapt : ∀ row ∈ rowsOf content source.name, ∀ name v,
      plan.Gives (source.valueIn row) name v → ∃ x, v.adapt (target.kindOf name) name = .ok x) :
    ∃ out,
      List.Forall₂ (fun row w => Makes plan target (source.valueIn row) w)
        (rowsOf content source.name) out ∧
      ∀ (batchSize : Nat) (s : State), s.feed = .tables content →
        s.source.get? source.name = some source →
        (∀ x ∈ trace Memory.backend plan source target batchSize s, x.succeeded) →
          (written (trace Memory.backend plan source target batchSize s)).flatten = out ∧
          (∀ batch ∈ written (trace Memory.backend plan source target batchSize s),
            batch ≠ [] ∧ batch.length ≤ Nat.max batchSize 1) ∧
          (run Memory.backend plan source target batchSize s).1
            = .succeeded plan.table (rowsOf content source.name).length
                (rowsOf content source.name).length 0 := by
  -- The rows to write do not depend on the run; each run is then shown to write them.
  have hsound := Plan.check_eq_ok_iff.1 hcheck
  obtain ⟨out, hout⟩ : ∃ out, List.Forall₂
      (fun row w => Makes plan target (source.valueIn row) w) (rowsOf content source.name) out :=
    exists_forall₂ (fun row hrow => exists_makes hsound (hadapt row hrow))
  refine ⟨out, hout, fun batchSize s hfeed hsource hcalls => ?_⟩
  obtain ⟨job, hjob⟩ := Job.exists_ofPlan_iff.2 hsound.has_read
  have hplanned := (Job.adapt_map_eq_ok_iff hsound hjob).2 hout
  rcases run_cases Memory.backend plan source target batchSize s with
    ⟨e, hnone, -⟩ | ⟨job', outcome, t, s', hjob', hmoves, hrun⟩
  · rw [hnone] at hjob
    cases hjob
  cases hjob.symm.trans hjob'
  obtain ⟨hok, hread⟩ := hmoves.reads_all (Job.batches_eq hjob hfeed hsource) hcalls (by
    intro row hrow
    obtain ⟨full, hfull, rfl⟩ := List.mem_map.1 hrow
    obtain ⟨w, hw⟩ := exists_makes hsound (hadapt full hfull)
    obtain ⟨columns, -, rfl⟩ := Job.ofPlan_eq_ok_iff.1 hjob
    exact ⟨w, (adaptRow_eq_ok_iff hsound).2 hw⟩)
  subst hok
  have hflat : (handedOut (trace Memory.backend plan source target batchSize s)).flatten
      = wanted plan source content := by
    rw [hread, List.flatten_append, Memory.chunks_flatten]
    exact List.append_nil _
  have hwritten :
      (written (trace Memory.backend plan source target batchSize s)).flatten = out := by
    have hadapted := hmoves.worked.2
    rw [hflat] at hadapted
    exact Except.ok.inj (hadapted.symm.trans hplanned)
  refine ⟨hwritten, hmoves.batch_sizes hread, ?_⟩
  have htally := hmoves.tally
  rw [hflat, hmoves.counted_eq, hwritten, ← hout.length_eq, wanted, List.length_map] at htally
  rw [hrun, htally]
  rfl

/-- The databases before the rows of the sample are moved. -/
def sampleState : State where
  source := ⟨"public", [Sample.people], List.pairwise_singleton _ _⟩
  feed := .tables [("people", Sample.rows)]
  target := ⟨"public", [Sample.guests], List.pairwise_singleton _ _⟩
  contents := fun _ => ⟨0, []⟩
  faults := []
  stop := false
  log := []

theorem sample_rows_as_planned :
    ∃ out,
      List.Forall₂ (fun row w => Makes Sample.plan Sample.guests (Sample.people.valueIn row) w)
        Sample.rows out ∧
      ∀ batchSize,
        (written (trace Memory.backend Sample.plan Sample.people Sample.guests batchSize
          sampleState)).flatten = out := by
  have hadapt : ∀ row ∈ Sample.rows, ∀ name v,
      Sample.plan.Gives (Sample.people.valueIn row) name v →
        ∃ x, v.adapt (Sample.guests.kindOf name) name = .ok x := by
    intro row hrow name v hgives
    have hall : ∀ row ∈ Sample.rows, ∀ x ∈ Sample.plan.writeColumns.zip
        (Sample.plan.project Sample.plan.readColumns
          (Sample.plan.readColumns.map (Sample.people.valueIn row))),
        (x.2.adapt (Sample.guests.kindOf x.1) x.1).isOk := by decide
    exact isOk_iff.1 (hall row hrow (name, v) ((Plan.gives_iff rfl).1 hgives))
  obtain ⟨out, hout, hruns⟩ := rows_as_planned Sample.plan Sample.people Sample.guests
    [("people", Sample.rows)] rfl hadapt
  exact ⟨out, hout, fun batchSize => (hruns batchSize sampleState rfl rfl
    (trace_succeeded Memory.reliable _ _ _ _ rfl)).1⟩

end Ferry.Transfer
