import Ferry.Backend.Memory

set_option autoImplicit false

/-! # Calls of the databases in memory

What a call answers and the state that it leaves, given what recording it comes to. Recording a call
changes the log, the faults to come and whether a stop is requested, and nothing else. -/

namespace Ferry.Memory

variable {α : Type} {e : Event} {s s' : State} {o : Except MigrationError α}

/-! ## Recording -/

@[simp] theorem State.record_source : (s.record e).2.source = s.source := by
  rw [State.record]
  split <;> rfl

@[simp] theorem State.record_feed : (s.record e).2.feed = s.feed := by
  rw [State.record]
  split <;> rfl

@[simp] theorem State.record_target : (s.record e).2.target = s.target := by
  rw [State.record]
  split <;> rfl

@[simp] theorem State.record_contents : (s.record e).2.contents = s.contents := by
  rw [State.record]
  split <;> rfl

@[simp] theorem State.record_batchesFor : (s.record e).2.batchesFor = s.batchesFor := by
  funext r
  simp only [State.batchesFor, State.record_feed, State.record_source]

/-! ## Calls -/

theorem reading_spec {answer : State → α} (h : reading e answer s = (o, s')) :
    s' = (s.record e).2 ∧ o = (s.record e).1.map (fun _ => answer s') := by
  unfold reading at h
  rcases hrecord : s.record e with ⟨error | u, after⟩
  all_goals
    rw [hrecord] at h
    cases h
    exact ⟨rfl, rfl⟩

theorem nextBatch_spec {c c' : Cursor} {read : Except MigrationError (List Row)}
    (h : nextBatch c s = (read, c', s')) :
    ∃ e, s' = (s.record e).2 ∧ c'.batches = c.batches.tail ∧
      read = (s.record e).1.map (fun _ => c.batches.head?.getD []) := by
  refine ⟨.nextBatch c.table (c.batches.head?.getD []).length, ?_⟩
  unfold nextBatch at h
  dsimp only at h
  rcases hrecord : s.record (.nextBatch c.table (c.batches.head?.getD []).length)
    with ⟨error | u, after⟩
  all_goals
    rw [hrecord] at h
    cases h
    exact ⟨rfl, rfl, rfl⟩

theorem stage_spec {change : Change} {answer : α} {k k' : Session}
    (h : stage e change answer k s = (o, k', s')) :
    s' = (s.record e).2 ∧ o = (s.record e).1.map (fun _ => answer) ∧
      (o.isOk → k'.changes = k.changes ++ [change]) := by
  unfold stage at h
  rcases hrecord : s.record e with ⟨error | u, after⟩
  all_goals
    rw [hrecord] at h
    cases h
  · exact ⟨rfl, rfl, fun hok => by cases hok⟩
  · exact ⟨rfl, rfl, fun _ => rfl⟩

theorem commit_spec {k : Session} {outcome : Except MigrationError Unit}
    (h : commit k s = (outcome, s')) : ∃ e, outcome = (s.record e).1 ∧
      s' = if outcome.isOk
        then { (s.record e).2 with contents := s.contents.applyAll k.changes }
        else (s.record e).2 := by
  refine ⟨.commit k.table, ?_⟩
  have hsame := State.record_contents (s := s) (e := .commit k.table)
  unfold commit at h
  rcases hrecord : s.record (.commit k.table) with ⟨error | u, after⟩
  all_goals
    rw [hrecord] at h hsame
    cases h
  · exact ⟨rfl, rfl⟩
  · have hcontents : after.contents = s.contents := hsame
    rw [hcontents]
    exact ⟨rfl, rfl⟩

end Ferry.Memory
