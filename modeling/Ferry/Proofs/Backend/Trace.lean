import Ferry.Backend.Memory
import Ferry.Proofs.Outcome

set_option autoImplicit false

/-! # Traced backends

`Backend.traced` turns a backend into one that also writes down every call made of it, in order and
with its outcome. What is said about the calls of a program is said about the steps that the program
leaves behind on the traced backend. Cursors and sessions stay what they are, so a program cannot
tell the two backends apart.

The steps are those of any backend, whichever calls fail on it and however often. -/

namespace Ferry

open Memory (CallKind Change)

/-! ## Steps -/

/-- A call of a backend with its outcome. -/
inductive Step
  | sourceCatalog (schema : String) (outcome : Except MigrationError Catalog)
  | targetCatalog (schema : String) (outcome : Except MigrationError Catalog)
  | openCursor (request : ReadRequest) (outcome : Except MigrationError Unit)
  | nextBatch (outcome : Except MigrationError (List Row))
  | closeCursor (outcome : Except MigrationError Unit)
  | beginSession (outcome : Except MigrationError Unit)
  | truncate (schema table : String) (outcome : Except MigrationError Unit)
  | write (target : WriteTarget) (rows : List Row) (outcome : Except MigrationError Nat)
  | commit (outcome : Except MigrationError Unit)
  | rollback (outcome : Except MigrationError Unit)
  | countSource (schema table : String) (outcome : Except MigrationError Int)
  | countTarget (schema table : String) (outcome : Except MigrationError Int)

namespace Step

/-- Which call was made. -/
def kind : Step → CallKind
  | sourceCatalog .. => .sourceCatalog
  | targetCatalog .. => .targetCatalog
  | openCursor .. => .openCursor
  | nextBatch .. => .nextBatch
  | closeCursor .. => .closeCursor
  | beginSession .. => .beginSession
  | truncate .. => .truncate
  | write .. => .write
  | commit .. => .commit
  | rollback .. => .rollback
  | countSource .. => .countSource
  | countTarget .. => .countTarget

/-- Whether the call succeeded. -/
def succeeded : Step → Bool
  | sourceCatalog _ o | targetCatalog _ o => o.isOk
  | openCursor _ o | closeCursor o | beginSession o => o.isOk
  | nextBatch o => o.isOk
  | truncate _ _ o | commit o | rollback o => o.isOk
  | write _ _ o => o.isOk
  | countSource _ _ o | countTarget _ _ o => o.isOk

/-- The rows that a cursor handed out. -/
def handedOut? : Step → Option (List Row)
  | nextBatch (.ok rows) => some rows
  | _ => none

/-- The rows that were passed on to be written, whether that succeeded or not. -/
def written? : Step → Option (List Row)
  | write _ rows _ => some rows
  | _ => none

/-- The number of rows that the target counted as written. -/
def counted? : Step → Option Nat
  | write _ _ (.ok n) => some n
  | _ => none

/-- The change that a call has staged. -/
def staged? : Step → Option Change
  | truncate _ table (.ok _) => some (.empty table)
  | write target rows (.ok _) => some (.append target.table rows)
  | _ => none

section
variable {schema table : String} {request : ReadRequest} {target : WriteTarget} {rows : List Row}
  {o : Except MigrationError Unit} {read : Except MigrationError (List Row)}
  {count : Except MigrationError Nat}

@[simp] theorem kind_openCursor : (openCursor request o).kind = .openCursor := rfl
@[simp] theorem kind_nextBatch : (nextBatch read).kind = .nextBatch := rfl
@[simp] theorem kind_closeCursor : (closeCursor o).kind = .closeCursor := rfl
@[simp] theorem kind_beginSession : (beginSession o).kind = .beginSession := rfl
@[simp] theorem kind_truncate : (truncate schema table o).kind = .truncate := rfl
@[simp] theorem kind_write : (write target rows count).kind = .write := rfl
@[simp] theorem kind_commit : (commit o).kind = .commit := rfl
@[simp] theorem kind_rollback : (rollback o).kind = .rollback := rfl

@[simp] theorem succeeded_openCursor : (openCursor request o).succeeded = o.isOk := rfl
@[simp] theorem succeeded_nextBatch : (nextBatch read).succeeded = read.isOk := rfl
@[simp] theorem succeeded_closeCursor : (closeCursor o).succeeded = o.isOk := rfl
@[simp] theorem succeeded_beginSession : (beginSession o).succeeded = o.isOk := rfl
@[simp] theorem succeeded_truncate : (truncate schema table o).succeeded = o.isOk := rfl
@[simp] theorem succeeded_write : (write target rows count).succeeded = count.isOk := rfl
@[simp] theorem succeeded_commit : (commit o).succeeded = o.isOk := rfl
@[simp] theorem succeeded_rollback : (rollback o).succeeded = o.isOk := rfl

end

end Step

/-- The batches that cursors handed out. -/
def handedOut (steps : List Step) : List (List Row) := steps.filterMap Step.handedOut?

/-- The batches that were passed on to be written. -/
def written (steps : List Step) : List (List Row) := steps.filterMap Step.written?

/-- The number of rows that the target counted as written in all. -/
def counted (steps : List Step) : Nat := steps.foldr (fun x n => x.counted?.getD 0 + n) 0

/-- The changes that calls have staged. -/
def staged (steps : List Step) : List Change := steps.filterMap Step.staged?

section
variable {x : Step} {xs ys : List Step}

@[simp] theorem handedOut_nil : handedOut [] = [] := rfl

@[simp] theorem handedOut_cons :
    handedOut (x :: xs) = x.handedOut?.toList ++ handedOut xs := by
  cases h : x.handedOut? <;> simp [handedOut, h]

@[simp] theorem handedOut_append : handedOut (xs ++ ys) = handedOut xs ++ handedOut ys := by
  simp [handedOut]

@[simp] theorem written_nil : written [] = [] := rfl

@[simp] theorem written_cons : written (x :: xs) = x.written?.toList ++ written xs := by
  cases h : x.written? <;> simp [written, h]

@[simp] theorem written_append : written (xs ++ ys) = written xs ++ written ys := by
  simp [written]

@[simp] theorem counted_nil : counted [] = 0 := rfl

@[simp] theorem counted_cons : counted (x :: xs) = x.counted?.getD 0 + counted xs := rfl

@[simp] theorem counted_append : counted (xs ++ ys) = counted xs + counted ys := by
  induction xs with
  | nil => simp
  | cons x rest ih => simp [ih, Nat.add_assoc]

@[simp] theorem staged_nil : staged [] = [] := rfl

@[simp] theorem staged_cons : staged (x :: xs) = x.staged?.toList ++ staged xs := by
  cases h : x.staged? <;> simp [staged, h]

@[simp] theorem staged_append : staged (xs ++ ys) = staged xs ++ staged ys := by
  simp [staged]

end

/-! ## The traced backend -/

section
variable {σ α η : Type}

/-- Forget what a successful call answered. -/
def withoutAnswer (outcome : Except MigrationError α) : Except MigrationError Unit :=
  outcome.map (fun _ => ())

/-- A call that writes itself down. -/
def Call.traced (call : Call σ α) (step : Except MigrationError α → Step) :
    Call (σ × List Step) α := fun s =>
  ((call s.1).1, (call s.1).2, s.2 ++ [step (call s.1).1])

/-- A call on a handle that writes itself down. -/
def HandleCall.traced (call : HandleCall η σ α) (step : Except MigrationError α → Step) :
    HandleCall η (σ × List Step) α := fun x s =>
  ((call x s.1).1, (call x s.1).2.1, (call x s.1).2.2, s.2 ++ [step (call x s.1).1])

theorem Call.traced_eq {call : Call σ α} {s s' : σ} {o : Except MigrationError α}
    (h : call s = (o, s')) (step : Except MigrationError α → Step) (steps : List Step) :
    Call.traced call step (s, steps) = (o, s', steps ++ [step o]) := by
  simp only [Call.traced, h]

theorem HandleCall.traced_eq {call : HandleCall η σ α} {x x' : η} {s s' : σ}
    {o : Except MigrationError α} (h : call x s = (o, x', s'))
    (step : Except MigrationError α → Step) (steps : List Step) :
    HandleCall.traced call step x (s, steps) = (o, x', s', steps ++ [step o]) := by
  simp only [HandleCall.traced, h]

/-- The backend that also writes down every call made of it. -/
abbrev Backend.traced (b : Backend σ) : Backend (σ × List Step) where
  Cursor := b.Cursor
  Session := b.Session
  sourceCatalog schema := Call.traced (b.sourceCatalog schema) (.sourceCatalog schema)
  targetCatalog schema := Call.traced (b.targetCatalog schema) (.targetCatalog schema)
  openCursor r := Call.traced (b.openCursor r) (fun o => .openCursor r (withoutAnswer o))
  nextBatch := HandleCall.traced b.nextBatch .nextBatch
  closeCursor c := Call.traced (b.closeCursor c) .closeCursor
  beginSession := Call.traced b.beginSession (fun o => .beginSession (withoutAnswer o))
  truncate schema table := HandleCall.traced (b.truncate schema table) (.truncate schema table)
  write target rows := HandleCall.traced (b.write target rows) (.write target rows)
  commit session := Call.traced (b.commit session) .commit
  rollback session := Call.traced (b.rollback session) .rollback
  countSource schema table := Call.traced (b.countSource schema table) (.countSource schema table)
  countTarget schema table := Call.traced (b.countTarget schema table) (.countTarget schema table)
  stopRequested s := b.stopRequested s.1
  probe? := b.probe?.map (fun probe s => ((probe s.1).1, (probe s.1).2, s.2))
  close s := (b.close s.1, s.2)
  remaining := b.remaining
  remaining_lt c s rows c' s' h hr := by
    simp only [HandleCall.traced, Prod.mk.injEq] at h
    exact b.remaining_lt c s.1 rows c' s'.1
      (Prod.ext h.1 (Prod.ext h.2.1 (by rw [← h.2.2]))) hr

end

end Ferry
