import Ferry.Adapt
import Ferry.Backend.Basic
import Ferry.Plan.Basic
import Ferry.Report

set_option autoImplicit false

/-! # Moving one table

A cursor on the source feeds batches of rows through a plan into one transaction on the target.
Reading and writing alternate. The cursor is opened before the target table is emptied, so that
the rows read are those of a moment at which nothing was touched. A failure anywhere rolls the
transaction back and becomes part of the report: moving a table never fails as such. An engine
moves tables one after the other and counts the rows of those that it has moved. -/

namespace Ferry.Transfer

/-! ## Rows -/

/-- Adapt the values of a row to the kinds and names of the columns they go to, by place. -/
def adaptValues : List ColumnKind → List String → List Value → Except MigrationError Row
  | kind :: kinds, column :: columns, v :: vs => do
    let w ← v.adapt kind column
    let ws ← adaptValues kinds columns vs
    return w :: ws
  | _, _, _ => .ok []

/-- The row to write for a row of the columns read. -/
def adaptRow (plan : Plan) (readColumns : List String) (kinds : List ColumnKind)
    (writeColumns : List String) (row : Row) : Except MigrationError Row :=
  adaptValues kinds writeColumns (plan.project readColumns row)

/-- The rows to write for a batch, or the error of the first value that cannot be adapted. -/
def adaptBatch (plan : Plan) (readColumns : List String) (kinds : List ColumnKind)
    (writeColumns : List String) : List Row → Except MigrationError (List Row)
  | [] => .ok []
  | row :: rest => do
    let r ← adaptRow plan readColumns kinds writeColumns row
    let rs ← adaptBatch plan readColumns kinds writeColumns rest
    return r :: rs

/-! ## One table -/

/-- What moving a table needs besides the databases. -/
structure Job where
  plan : Plan
  /-- The columns to read, in order. -/
  readColumns : List String
  /-- The kinds of the columns to write, in order. -/
  kinds : List ColumnKind
  request : ReadRequest
  writeTarget : WriteTarget

/-- The rows of a batch in the form in which they are written. -/
def Job.adapt (job : Job) (rows : List Row) : Except MigrationError (List Row) :=
  adaptBatch job.plan job.readColumns job.kinds job.writeTarget.columns rows

/-- The columns of a name each, or the error for the first name that there is none of. -/
def findColumns (table : String) (source : Table) :
    List String → Except MigrationError (List Column)
  | [] => .ok []
  | name :: rest =>
    match source.column? name with
    | none => .error (.planInvalid table s!"source has no column '{name}'")
    | some c => (findColumns table source rest).map (c :: ·)

/-- The job of a plan for two tables. -/
def Job.ofPlan (plan : Plan) (source target : Table) (batchSize : Nat) :
    Except MigrationError Job :=
  let read := plan.readColumns
  let write := plan.writeColumns
  (findColumns plan.table source read).map fun columns =>
    { plan := plan
      readColumns := read
      kinds := write.map (fun n => (target.column? n).elim .other Column.kind)
      request := ⟨source.schema, source.name, columns, batchSize⟩
      writeTarget := ⟨target.schema, target.name, write, plan.upsertKey⟩ }

/-- Rows read and rows written so far. Counters of 64 bits cannot wrap around here: no table has as
    many rows as that, every row is read once, and a database counts no more rows as written than
    it was given. So they are plain numbers. -/
structure Tally where
  rowsRead : Nat
  rowsWritten : Nat
deriving DecidableEq, Inhabited

/-- The error that a report of a table shows: errors of another sort become transfer errors. -/
def wrap (table : String) : MigrationError → MigrationError
  | .transfer t m => .transfer t m
  | .planInvalid t m => .planInvalid t m
  | e => .transfer table e.message

section
variable {σ : Type} (b : Backend σ)

/-- What the copying of rows leaves behind. -/
structure Copied where
  outcome : Except MigrationError Unit
  tally : Tally
  cursor : b.Cursor
  session : b.Session
  state : σ

/-- Copy batches until one is empty or something fails. -/
def copyBatches (job : Job) (cursor : b.Cursor) (session : b.Session) (tally : Tally) (s : σ) :
    Copied b :=
  match h : b.nextBatch cursor s with
  | (.error e, cursor, s) => ⟨.error e, tally, cursor, session, s⟩
  | (.ok rows, cursor', s) =>
    if hr : rows = [] then ⟨.ok (), tally, cursor', session, s⟩
    else
      have _fewer := b.remaining_lt _ _ _ _ _ h hr
      let tally := { tally with rowsRead := tally.rowsRead + rows.length }
      match job.adapt rows with
      | .error e => ⟨.error e, tally, cursor', session, s⟩
      | .ok adapted =>
        match b.write job.writeTarget adapted session s with
        | (.error e, session, s) => ⟨.error e, tally, cursor', session, s⟩
        | (.ok n, session, s) =>
          copyBatches job cursor' session { tally with rowsWritten := tally.rowsWritten + n } s
termination_by b.remaining cursor
decreasing_by assumption

/-- Empty the table if the plan says so, then copy. -/
def copyRows (job : Job) (cursor : b.Cursor) (session : b.Session) (s : σ) : Copied b :=
  match job.plan.mode with
  | .merge => copyBatches b job cursor session ⟨0, 0⟩ s
  | .replace =>
    match b.truncate job.writeTarget.schema job.writeTarget.table session s with
    | (.error e, session, s) =>
      ⟨.error (.transfer job.plan.table ("truncate failed: " ++ e.message)), ⟨0, 0⟩, cursor,
        session, s⟩
    | (.ok _, session, s) => copyBatches b job cursor session ⟨0, 0⟩ s

/-- Copy in a transaction of its own. The cursor is closed before the transaction ends; it does
    not matter whether closing it or rolling back succeeds. -/
def transferJob (job : Job) (s : σ) : Except MigrationError Unit × Tally × σ :=
  match b.openCursor job.request s with
  | (.error e, s) => (.error e, ⟨0, 0⟩, s)
  | (.ok cursor, s) =>
    match b.beginSession s with
    | (.error e, s) => (.error e, ⟨0, 0⟩, (b.closeCursor cursor s).2)
    | (.ok session, s) =>
      let copied := copyRows b job cursor session s
      let s := (b.closeCursor copied.cursor copied.state).2
      match copied.outcome with
      | .ok _ =>
        let (outcome, s) := b.commit copied.session s
        (outcome, copied.tally, s)
      | .error e => (.error e, copied.tally, (b.rollback copied.session s).2)

/-- Move one table by a plan. -/
def transfer (plan : Plan) (source target : Table) (batchSize : Nat) (s : σ) :
    Except MigrationError Unit × Tally × σ :=
  match Job.ofPlan plan source target batchSize with
  | .error e => (.error e, ⟨0, 0⟩, s)
  | .ok job => transferJob b job s

/-- The report of a table for what moving it came to. -/
def report (table : String) (outcome : Except MigrationError Unit) (tally : Tally) :
    TableReport :=
  match outcome with
  | .ok _ => .succeeded table tally.rowsRead tally.rowsWritten 0
  | .error e => .failed table (wrap table e).message tally.rowsRead 0

end

/-! ## One table after the other -/

/-- What moves tables, one after the other. -/
structure Engine where
  /-- The number of rows in a batch. -/
  batchSize : Nat
  /-- The rows of all tables that were moved so far. The counter wraps around. -/
  rowsTransferred : UInt64
deriving DecidableEq, Inhabited

namespace Engine

/-- An engine that has moved no table yet. -/
def new (batchSize : Nat) : Engine := ⟨batchSize, 0⟩

/-- The engine after a table: its rows count only if the table was moved. -/
def after (engine : Engine) (outcome : Except MigrationError Unit) (tally : Tally) : Engine :=
  match outcome with
  | .ok _ =>
    { engine with rowsTransferred := engine.rowsTransferred + UInt64.ofNat tally.rowsWritten }
  | .error _ => engine

/-- Move one table by a plan and report how it went. -/
def run {σ : Type} (b : Backend σ) (engine : Engine) (plan : Plan) (source target : Table)
    (s : σ) : TableReport × Engine × σ :=
  let (outcome, tally, s) := transfer b plan source target engine.batchSize s
  (report plan.table outcome tally, engine.after outcome tally, s)

end Engine

/-- Move one table by a plan and report how it went, with an engine whose counter nobody reads. -/
def run {σ : Type} (b : Backend σ) (plan : Plan) (source target : Table) (batchSize : Nat)
    (s : σ) : TableReport × σ :=
  let (report, _, s) := Engine.run b (.new batchSize) plan source target s
  (report, s)

/-- What the counter of a new engine comes to with some reports: the rows of the tables that
    succeeded. -/
def rowsTransferred (reports : List TableReport) : Nat :=
  TableReport.totalWritten reports

end Ferry.Transfer
