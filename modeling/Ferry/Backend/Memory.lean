import Ferry.Backend.Basic

set_option autoImplicit false

/-! # Databases in memory

A backend over tables held in memory, for trying a migration out. It keeps a log of its calls, and
a list of faults can make chosen calls fail or ask the run to stop. The target publishes what a
session wrote when the session is committed, and not at all if it is dropped, rolled back or fails
to commit. -/

namespace Ferry.Memory

/-! ## Calls and faults -/

/-- The calls of a backend. -/
inductive CallKind
  | sourceCatalog
  | targetCatalog
  | openCursor
  | nextBatch
  | closeCursor
  | beginSession
  | truncate
  | write
  | commit
  | rollback
  | countSource
  | countTarget
deriving DecidableEq, Repr

/-- A call as the log shows it. -/
inductive Event
  | sourceCatalog (schema : String)
  | targetCatalog (schema : String)
  | openCursor (request : ReadRequest)
  | nextBatch (table : String) (rows : Nat)
  | closeCursor (table : String)
  | beginSession
  | truncate (schema table : String)
  | write (target : WriteTarget) (rows : List Row)
  | commit (table : String)
  | rollback (table : String)
  | countSource (schema table : String)
  | countTarget (schema table : String)
deriving Inhabited

namespace Event

def kind : Event → CallKind
  | sourceCatalog .. => .sourceCatalog
  | targetCatalog .. => .targetCatalog
  | openCursor .. => .openCursor
  | nextBatch .. => .nextBatch
  | closeCursor .. => .closeCursor
  | beginSession => .beginSession
  | truncate .. => .truncate
  | write .. => .write
  | commit .. => .commit
  | rollback .. => .rollback
  | countSource .. => .countSource
  | countTarget .. => .countTarget

/-- The table that a call is about; empty for calls that are about none. -/
def table : Event → String
  | openCursor request => request.table
  | nextBatch t _ | closeCursor t | truncate _ t | commit t | rollback t => t
  | write target _ => target.table
  | countSource _ t | countTarget _ t => t
  | _ => ""

end Event

/-- What a fault does to a call. -/
inductive Effect
  | fail (error : MigrationError)
  /-- Ask the run to stop; the call succeeds. -/
  | stop
deriving Inhabited

/-- A fault waits for calls of one kind, perhaps only for those about one table. It strikes every
    such call, or only the one of a number, counted from one. -/
structure Fault where
  on : CallKind
  table : Option String
  nth : Option Nat
  effect : Effect
  /-- The number of calls it has waited for so far. -/
  seen : Nat

namespace Fault

/-- Whether a fault waits for a call. -/
def awaits (f : Fault) (e : Event) : Bool :=
  f.on == e.kind && (f.table.isNone || f.table == some e.table)

/-- The fault after a call. -/
def after (f : Fault) (e : Event) : Fault :=
  if f.awaits e then { f with seen := f.seen + 1 } else f

/-- Whether a fault strikes a call. -/
def strikes (f : Fault) (e : Event) : Bool :=
  f.awaits e && (f.nth.isNone || f.nth == some (f.seen + 1))

/-- The effect of the first fault that strikes a call. -/
def effect? (faults : List Fault) (e : Event) : Option Effect :=
  (faults.find? (fun f => f.strikes e)).map (·.effect)

end Fault

/-! ## Contents -/

/-- The content of a target table: the number of rows that it had from the start, as it was
    counted then, and the rows written since. -/
structure Content where
  counted : Int
  rows : List Row
deriving Inhabited

/-- The number of rows. -/
def Content.size (c : Content) : Int := c.counted + c.rows.length

/-- The content of every target table, by name. -/
abbrev Contents := String → Content

/-- A change that a session stages. -/
inductive Change
  | empty (table : String)
  | append (table : String) (rows : List Row)

/-- The contents after a change. -/
def Contents.apply (c : Contents) : Change → Contents
  | .empty t => fun name => if name = t then ⟨0, []⟩ else c name
  | .append t rows => fun name =>
    if name = t then { c t with rows := (c t).rows ++ rows } else c name

/-- The contents after some changes, in order. -/
def Contents.applyAll (c : Contents) (changes : List Change) : Contents :=
  changes.foldl Contents.apply c

/-! ## The state -/

/-- Where a cursor takes its batches from. -/
inductive Feed
  /-- From the rows of the tables, with a value for each column of the table. -/
  | tables (rows : List (String × List Row))
  /-- These batches, whatever is asked for. -/
  | batches (batches : List (List Row))

/-- Both databases, the faults to come and the log so far. -/
structure State where
  source : Catalog
  feed : Feed
  target : Catalog
  contents : Contents
  faults : List Fault
  /-- Whether the run has been asked to stop. -/
  stop : Bool
  /-- The calls so far, the last one first. -/
  log : List Event

/-- Record a call and find out what becomes of it: faults strike after it has been recorded. -/
def State.record (s : State) (e : Event) : Except MigrationError Unit × State :=
  let after := { s with log := e :: s.log, faults := s.faults.map (fun f => f.after e) }
  match Fault.effect? s.faults e with
  | some (.fail error) => (.error error, after)
  | some .stop => (.ok (), { after with stop := true })
  | none => (.ok (), after)

/-- A call that only reads the state. -/
def reading {α : Type} (e : Event) (answer : State → α) : Call State α := fun s =>
  match s.record e with
  | (.ok _, s) => (.ok (answer s), s)
  | (.error error, s) => (.error error, s)

/-! ## Cursors -/

/-- A cursor: the batches it has still to give. -/
structure Cursor where
  table : String
  batches : List (List Row)

/-- Cut a list into pieces of `size + 1` members; the last may be shorter. -/
def chunks {α : Type} (size : Nat) (xs : List α) : List (List α) :=
  if h : xs = [] then []
  else xs.take (size + 1) :: chunks size (xs.drop (size + 1))
termination_by xs.length
decreasing_by
  have : 0 < xs.length := List.length_pos_iff.mpr h
  simp only [List.length_drop]; omega

/-- The rows of a table of the source. -/
def rowsOf (rows : List (String × List Row)) (table : String) : List Row :=
  ((rows.find? (fun t => t.1 == table)).map (·.2)).getD []

/-- The values of some columns of a full row of a table, by name. -/
def pick (table : Table) (columns : List Column) (row : Row) : Row :=
  let values := table.columnNames.zip row
  columns.map (fun c => ((values.find? (fun v => v.1 == c.name)).map (·.2)).getD .null)

/-- The batches of a request. -/
def State.batchesFor (s : State) (r : ReadRequest) : List (List Row) :=
  match s.feed with
  | .batches batches => batches
  | .tables rows =>
    let table := (s.source.get? r.table).getD default
    chunks (r.batchSize - 1) ((rowsOf rows r.table).map (pick table r.columns))

/-- The number of rows of a table of the source. -/
def State.sourceRows (s : State) (table : String) : Nat :=
  match s.feed with
  | .tables rows => (rowsOf rows table).length
  | .batches batches => batches.flatten.length

/-- Give the next batch; none is left when the cursor is exhausted. -/
def nextBatch : HandleCall Cursor State (List Row) := fun c s =>
  let rows := c.batches.head?.getD []
  let rest := { c with batches := c.batches.tail }
  match s.record (.nextBatch c.table rows.length) with
  | (.ok _, s) => (.ok rows, rest, s)
  | (.error error, s) => (.error error, rest, s)

theorem nextBatch_lt (c : Cursor) (s : State) (rows : List Row) (c' : Cursor) (s' : State)
    (h : nextBatch c s = (.ok rows, c', s')) (hr : rows ≠ []) :
    c'.batches.length < c.batches.length := by
  unfold nextBatch at h
  dsimp only at h
  split at h
  · simp only [Prod.mk.injEq, Except.ok.injEq] at h
    obtain ⟨h1, h2, _⟩ := h
    subst h2
    cases hb : c.batches with
    | nil => simp [hb] at h1; exact absurd h1 hr
    | cons b rest => simp
  · simp at h

/-! ## Sessions -/

/-- A transaction: the changes it has staged, and the table it touched last. -/
structure Session where
  table : String
  changes : List Change

/-- A call of a session that stages a change if it succeeds. -/
def stage {α : Type} (e : Event) (change : Change) (answer : α) :
    HandleCall Session State α := fun session s =>
  match s.record e with
  | (.ok _, s) => (.ok answer, ⟨e.table, session.changes ++ [change]⟩, s)
  | (.error error, s) => (.error error, { session with table := e.table }, s)

/-- Publish what a session has staged. -/
def commit (session : Session) : Call State Unit := fun s =>
  match s.record (.commit session.table) with
  | (.ok _, s) => (.ok (), { s with contents := s.contents.applyAll session.changes })
  | (.error error, s) => (.error error, s)

/-! ## The backend -/

/-- The databases in memory as a backend. -/
def backend : Backend State where
  Cursor := Cursor
  Session := Session
  sourceCatalog schema := reading (.sourceCatalog schema) (·.source)
  targetCatalog schema := reading (.targetCatalog schema) (·.target)
  openCursor r := reading (.openCursor r) (fun s => ⟨r.table, s.batchesFor r⟩)
  nextBatch := nextBatch
  closeCursor c := reading (.closeCursor c.table) (fun _ => ())
  beginSession := reading .beginSession (fun _ => ⟨"", []⟩)
  truncate schema table := stage (.truncate schema table) (.empty table) ()
  write target rows := stage (.write target rows) (.append target.table rows) rows.length
  commit := commit
  rollback session := reading (.rollback session.table) (fun _ => ())
  countSource schema table := reading (.countSource schema table) (fun s => s.sourceRows table)
  countTarget schema table :=
    reading (.countTarget schema table) (fun s => (s.contents table).size)
  stopRequested s := s.stop
  probe? := none
  close s := s
  remaining c := c.batches.length
  remaining_lt := nextBatch_lt

/-- The state at the start of a run: nothing but a fault or the caller asks it to stop. -/
def State.startRun (s : State) (stop : Bool) : State := { s with stop := stop }

/-- The calls recorded so far in order, and the state with an empty log. -/
def State.takeLog (s : State) : List Event × State := (s.log.reverse, { s with log := [] })

end Ferry.Memory
