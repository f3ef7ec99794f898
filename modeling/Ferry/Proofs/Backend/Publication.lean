import Ferry.Config.Basic
import Ferry.Proofs.Backend.Calls
import Ferry.Proofs.Backend.Trace

set_option autoImplicit false

/-! # What a backend publishes

The contract of a target: what a session stages is seen by nobody until the session is committed,
and never if it is dropped, rolled back or fails to commit. `Publication` states it for the calls of
a transfer, on any backend; `Memory.publication` is that the databases in memory keep it, whatever
faults are to come. -/

namespace Ferry

open Memory (Change Content Contents)

/-! ## Contents -/

namespace Memory

/-- The content of a table into which rows were put. -/
def Content.filled (mode : WriteMode) (rows : List Row) (c : Content) : Content :=
  match mode with
  | .replace => ⟨0, rows⟩
  | .merge => { c with rows := c.rows ++ rows }

/-- The contents after rows were put into a table. -/
def Contents.filled (mode : WriteMode) (table : String) (rows : List Row) (c : Contents) :
    Contents := fun name =>
  if name = table then (c name).filled mode rows else c name

/-- The changes by which a table is filled: it is emptied first if it is to be replaced. -/
def filling (mode : WriteMode) (table : String) (batches : List (List Row)) : List Change :=
  (if mode = .replace then [.empty table] else []) ++ batches.map (.append table)

namespace Contents
variable {c : Contents} {xs ys : List Change}

@[simp] theorem applyAll_nil : c.applyAll [] = c := rfl

@[simp] theorem applyAll_cons {x : Change} : c.applyAll (x :: xs) = (c.apply x).applyAll xs := rfl

@[simp] theorem applyAll_append : c.applyAll (xs ++ ys) = (c.applyAll xs).applyAll ys :=
  List.foldl_append

theorem applyAll_appends (table : String) (batches : List (List Row)) :
    c.applyAll (batches.map (.append table)) = c.filled .merge table batches.flatten := by
  induction batches generalizing c with
  | nil =>
      funext name
      simp [filled, Content.filled]
  | cons rows rest ih =>
      rw [List.map_cons, applyAll_cons, ih]
      funext name
      by_cases hname : name = table
      · subst hname
        simp [filled, Content.filled, apply]
      · simp [filled, apply, hname]

/-- Filling a table by changes puts the rows of all batches into it. -/
theorem applyAll_filling (mode : WriteMode) (table : String) (batches : List (List Row)) :
    c.applyAll (filling mode table batches) = c.filled mode table batches.flatten := by
  rw [filling, applyAll_append, applyAll_appends]
  cases mode with
  | merge => rfl
  | replace =>
      funext name
      by_cases hname : name = table
      · subst hname
        simp [filled, Content.filled, apply]
      · simp [filled, apply, hname]

end Contents

end Memory

/-! ## The contract -/

/-- What a backend publishes and what its sessions have staged. The calls of a transfer leave what
    is published alone, except for a commit that succeeds. -/
structure Publication {σ : Type} (b : Backend σ) where
  published : σ → Contents
  staged : b.Session → List Change
  openCursor {r s o s'} : b.openCursor r s = (o, s') → published s' = published s
  nextBatch {c s o c' s'} : b.nextBatch c s = (o, c', s') → published s' = published s
  closeCursor {c s o s'} : b.closeCursor c s = (o, s') → published s' = published s
  /-- A session begins with nothing staged. -/
  beginSession {s o s'} : b.beginSession s = (o, s') →
    published s' = published s ∧ ∀ k, o = .ok k → staged k = []
  truncate {schema table k s o k' s'} : b.truncate schema table k s = (o, k', s') →
    published s' = published s ∧ (o.isOk → staged k' = staged k ++ [.empty table])
  write {target rows k s o k' s'} : b.write target rows k s = (o, k', s') →
    published s' = published s ∧ (o.isOk → staged k' = staged k ++ [.append target.table rows])
  /-- All that was staged is published at once, or nothing of it. -/
  commit {k s o s'} : b.commit k s = (o, s') →
    published s' = if o.isOk then (published s).applyAll (staged k) else published s
  rollback {k s o s'} : b.rollback k s = (o, s') → published s' = published s

/-! ## The databases in memory -/

namespace Memory

variable {α : Type} {e : Event} {s s' : State} {o : Except MigrationError α}

theorem reading_contents {answer : State → α} (h : reading e answer s = (o, s')) :
    s'.contents = s.contents := by
  rw [(reading_spec h).1]
  exact State.record_contents

theorem nextBatch_contents {c c' : Cursor} {read : Except MigrationError (List Row)}
    (h : nextBatch c s = (read, c', s')) : s'.contents = s.contents := by
  obtain ⟨e, rfl, -⟩ := nextBatch_spec h
  exact State.record_contents

theorem stage_changes {change : Change} {answer : α} {k k' : Session}
    (h : stage e change answer k s = (o, k', s')) :
    s'.contents = s.contents ∧ (o.isOk → k'.changes = k.changes ++ [change]) := by
  obtain ⟨rfl, -, hchanges⟩ := stage_spec h
  exact ⟨State.record_contents, hchanges⟩

theorem commit_contents {k : Session} {outcome : Except MigrationError Unit}
    (h : commit k s = (outcome, s')) :
    s'.contents = if outcome.isOk then s.contents.applyAll k.changes else s.contents := by
  obtain ⟨e, -, rfl⟩ := commit_spec h
  split
  · rfl
  · exact State.record_contents

theorem beginSession_changes {k : Session}
    (h : reading .beginSession (fun _ => (⟨"", []⟩ : Session)) s = (.ok k, s')) :
    k.changes = [] := by
  obtain ⟨u, -, rfl⟩ := map_eq_ok_iff.1 (reading_spec h).2.symm
  rfl

/-- The databases in memory keep the contract, whatever faults are to come. -/
def publication : Publication backend where
  published := State.contents
  staged := Session.changes
  openCursor := reading_contents
  nextBatch := nextBatch_contents
  closeCursor := reading_contents
  beginSession h :=
    ⟨reading_contents h, fun k hk => by subst hk; exact beginSession_changes h⟩
  truncate := stage_changes
  write := stage_changes
  commit := commit_contents
  rollback := reading_contents

end Memory

end Ferry
