import Ferry.Proofs.Backend.Calls
import Ferry.Proofs.Backend.Trace

set_option autoImplicit false

/-! # Reliable backends

A backend is reliable in some of its states if every call of a transfer that is made in such a state
succeeds and leads to such a state again. The databases in memory are reliable while no faults are
to come. -/

namespace Ferry

/-- In a state that is calm every call of a transfer succeeds, and the state after it is calm. -/
structure Reliable {σ : Type} (b : Backend σ) (Calm : σ → Prop) : Prop where
  openCursor {r s o s'} : Calm s → b.openCursor r s = (o, s') → o.isOk ∧ Calm s'
  nextBatch {c s o c' s'} : Calm s → b.nextBatch c s = (o, c', s') → o.isOk ∧ Calm s'
  closeCursor {c s o s'} : Calm s → b.closeCursor c s = (o, s') → o.isOk ∧ Calm s'
  beginSession {s o s'} : Calm s → b.beginSession s = (o, s') → o.isOk ∧ Calm s'
  truncate {schema table k s o k' s'} : Calm s → b.truncate schema table k s = (o, k', s') →
    o.isOk ∧ Calm s'
  write {target rows k s o k' s'} : Calm s → b.write target rows k s = (o, k', s') →
    o.isOk ∧ Calm s'
  commit {k s o s'} : Calm s → b.commit k s = (o, s') → o.isOk ∧ Calm s'
  rollback {k s o s'} : Calm s → b.rollback k s = (o, s') → o.isOk ∧ Calm s'

namespace Memory

/-- No faults are to come. -/
def Calm (s : State) : Prop := s.faults = []

variable {α : Type} {e : Event} {s s' : State} {o : Except MigrationError α}

theorem record_of_calm (h : Calm s) (e : Event) :
    (s.record e).1 = .ok () ∧ Calm (s.record e).2 := by
  have hfaults : s.faults = [] := h
  have hrecord : s.record e = (.ok (), { s with log := e :: s.log, faults := [] }) := by
    simp [State.record, Fault.effect?, hfaults]
  rw [hrecord]
  exact ⟨rfl, rfl⟩

theorem reading_of_calm {answer : State → α} (h : Calm s) (hcall : reading e answer s = (o, s')) :
    o.isOk ∧ Calm s' := by
  obtain ⟨rfl, rfl⟩ := reading_spec hcall
  obtain ⟨hok, hcalm⟩ := record_of_calm h e
  rw [hok]
  exact ⟨rfl, hcalm⟩

theorem nextBatch_of_calm {c c' : Cursor} {read : Except MigrationError (List Row)} (h : Calm s)
    (hcall : nextBatch c s = (read, c', s')) : read.isOk ∧ Calm s' := by
  obtain ⟨e, rfl, -, rfl⟩ := nextBatch_spec hcall
  obtain ⟨hok, hcalm⟩ := record_of_calm h e
  rw [hok]
  exact ⟨rfl, hcalm⟩

theorem stage_of_calm {change : Change} {answer : α} {k k' : Session} (h : Calm s)
    (hcall : stage e change answer k s = (o, k', s')) : o.isOk ∧ Calm s' := by
  obtain ⟨rfl, rfl, -⟩ := stage_spec hcall
  obtain ⟨hok, hcalm⟩ := record_of_calm h e
  rw [hok]
  exact ⟨rfl, hcalm⟩

theorem commit_of_calm {k : Session} {outcome : Except MigrationError Unit} (h : Calm s)
    (hcall : commit k s = (outcome, s')) : outcome.isOk ∧ Calm s' := by
  obtain ⟨e, rfl, rfl⟩ := commit_spec hcall
  obtain ⟨hok, hcalm⟩ := record_of_calm h e
  rw [hok]
  exact ⟨rfl, hcalm⟩

theorem reliable : Reliable backend Calm where
  openCursor := reading_of_calm
  nextBatch := nextBatch_of_calm
  closeCursor := reading_of_calm
  beginSession := reading_of_calm
  truncate := stage_of_calm
  write := stage_of_calm
  commit := commit_of_calm
  rollback := reading_of_calm

end Memory

end Ferry
