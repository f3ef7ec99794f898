import Ferry.Error
import Ferry.Schema.Catalog
import Ferry.Sql.Insert

set_option autoImplicit false

/-! # Backends

What a migration needs of the two databases. A backend works on a state: each call takes the
state of both databases and gives an outcome and the state after it, whether the call succeeded
or failed. A cursor and a session are values of their own. They are handed from call to call, so a
call sees exactly what the calls before it left behind. -/

namespace Ferry

/-- A call that gives an outcome and a new state. -/
abbrev Call (σ α : Type) := σ → Except MigrationError α × σ

/-- A call on a handle: it gives an outcome, the handle after the call, and a new state. -/
abbrev HandleCall (η σ α : Type) := η → σ → Except MigrationError α × η × σ

/-- What a cursor is to read. -/
structure ReadRequest where
  schema : String
  table : String
  /-- The columns, in the order of the values of a row. -/
  columns : List Column
  /-- The greatest number of rows in a batch; zero counts as one. -/
  batchSize : Nat
deriving Inhabited

/-- The outcome of a probe of one database: the text of the error, if it does not answer. -/
structure Probe where
  error : Option String
deriving DecidableEq, Inhabited

/-- Whether the database answered. -/
def Probe.connected (p : Probe) : Bool := p.error.isNone

/-- A source and a target database on a state `σ`. -/
structure Backend (σ : Type) where
  /-- A stream of rows out of one source table. -/
  Cursor : Type
  /-- An open transaction on the target. -/
  Session : Type
  /-- Read the tables of a schema of the source. -/
  sourceCatalog : String → Call σ Catalog
  /-- Read the tables of a schema of the target. -/
  targetCatalog : String → Call σ Catalog
  openCursor : ReadRequest → Call σ Cursor
  /-- The next rows; none when the cursor is exhausted. -/
  nextBatch : HandleCall Cursor σ (List Row)
  closeCursor : Cursor → Call σ Unit
  /-- Open a transaction. What is written in it is seen by nobody else until it is committed. -/
  beginSession : Call σ Session
  /-- Remove every row of a table, given by schema and name. -/
  truncate : String → String → HandleCall Session σ Unit
  /-- Write rows; the outcome is the number of rows that the target counted. -/
  write : WriteTarget → List Row → HandleCall Session σ Nat
  commit : Session → Call σ Unit
  rollback : Session → Call σ Unit
  /-- Count the rows of a table of the source, given by schema and name. -/
  countSource : String → String → Call σ Int
  /-- Count the rows of a table of the target, given by schema and name. -/
  countTarget : String → String → Call σ Int
  /-- Whether the run has been asked to stop. -/
  stopRequested : σ → Bool
  /-- Probe source and target, where the backend has connections that can be probed. -/
  probe? : Option (σ → (Probe × Probe) × σ)
  /-- Give up all connections. -/
  close : σ → σ
  /-- How many rows a cursor can still give at most. -/
  remaining : Cursor → Nat
  /-- A batch with rows leaves fewer rows behind. -/
  remaining_lt : ∀ c s rows c' s',
    nextBatch c s = (.ok rows, c', s') → rows ≠ [] → remaining c' < remaining c

end Ferry
