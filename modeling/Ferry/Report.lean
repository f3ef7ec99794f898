import Ferry.Document.Printer
import Ferry.Number.FloatText

set_option autoImplicit false

/-! # Reports

The outcome of each table of a run, and of the run. -/

namespace Ferry

/-- How a table ended. -/
inductive TableStatus
  | succeeded
  | failed
  | skipped
deriving DecidableEq, Inhabited, Repr

def TableStatus.text : TableStatus → String
  | .succeeded => "succeeded"
  | .failed => "failed"
  | .skipped => "skipped"

/-- The outcome of a table. -/
structure TableReport where
  table : String
  rowsRead : Nat
  /-- What the target counted as written; zero unless the table succeeded. -/
  rowsWritten : Nat
  status : TableStatus
  /-- Why the table failed. -/
  error : Option String
  /-- Why the table was skipped, or what a dry run would do. -/
  detail : Option String
  durationMs : Nat
deriving DecidableEq, Inhabited

namespace TableReport

def succeeded (table : String) (rowsRead rowsWritten durationMs : Nat) : TableReport :=
  ⟨table, rowsRead, rowsWritten, .succeeded, none, none, durationMs⟩

/-- Nothing that a failed table wrote is kept. -/
def failed (table error : String) (rowsRead durationMs : Nat) : TableReport :=
  ⟨table, rowsRead, 0, .failed, some error, none, durationMs⟩

def skipped (table detail : String) : TableReport :=
  ⟨table, 0, 0, .skipped, none, some detail, 0⟩

/-- A member for a text that is there. -/
def optionalMember (key : String) : Option String → List (String × Document)
  | some s => [(key, .string s)]
  | none => []

/-- The report as a document. -/
def toDocument (r : TableReport) : Document :=
  .object
    ([("table", .string r.table), ("rows_read", .ofInt r.rowsRead),
      ("rows_written", .ofInt r.rowsWritten), ("status", .string r.status.text)]
      ++ optionalMember "error" r.error ++ optionalMember "detail" r.detail
      ++ [("duration_ms", .ofInt r.durationMs)])

/-- Rows written to the tables that succeeded, as a counter of 64 bits. -/
def totalWritten (reports : List TableReport) : Nat :=
  (reports.filter (fun r => r.status == .succeeded)).foldr (fun r n => r.rowsWritten + n) 0
    % Nat.pow 2 64

end TableReport

/-- How a run ended. -/
inductive RunStatus
  /-- No table failed. -/
  | completed
  /-- Some table failed. -/
  | completedWithErrors
  /-- The run was stopped early on request. -/
  | cancelled
deriving DecidableEq, Inhabited, Repr

def RunStatus.text : RunStatus → String
  | .completed => "completed"
  | .completedWithErrors => "completed_with_errors"
  | .cancelled => "cancelled"

/-- What names a run and tells when it took place. -/
structure RunStamp where
  runId : String
  startedAt : String
  completedAt : String
  /-- The duration in milliseconds. -/
  elapsedMs : Nat
deriving Inhabited

/-- The duration in seconds. -/
def RunStamp.seconds (s : RunStamp) : Number.Binary64 :=
  Number.Binary64.ofFraction false s.elapsedMs 1000

/-- The outcome of a run: the reports of its tables in order, and what sums them up. -/
structure RunReport where
  stamp : RunStamp
  /-- The fingerprint of the configuration of the run. -/
  configHash : String
  dryRun : Bool
  /-- Whether tables were left out because the run was cancelled. -/
  cancelled : Bool
  tables : List TableReport
deriving Inhabited

namespace RunReport

/-- The number of tables that ended in a status. -/
def count (r : RunReport) (status : TableStatus) : Nat :=
  (r.tables.filter (fun t => t.status == status)).length

/-- A cancelled run says so whatever else happened. -/
def status (r : RunReport) : RunStatus :=
  if r.cancelled then .cancelled
  else if 0 < r.count .failed then .completedWithErrors
  else .completed

/-- Rows written to tables that succeeded. -/
def rowsWritten (r : RunReport) : Nat := TableReport.totalWritten r.tables

/-- The names of the tables that failed, in order. -/
def failedTables (r : RunReport) : List String :=
  (r.tables.filter (fun t => t.status == .failed)).map (·.table)

/-- Whether no table failed. -/
def succeeded (r : RunReport) : Bool := r.count .failed == 0

/-- The first report of a table. -/
def table? (r : RunReport) (name : String) : Option TableReport :=
  r.tables.find? (fun t => t.table == name)

/-- The report as a document. -/
def toDocument (r : RunReport) : Document :=
  .object
    [("run_id", .string r.stamp.runId), ("status", .string r.status.text),
     ("dry_run", .bool r.dryRun), ("config_hash", .string r.configHash),
     ("started_at", .string r.stamp.startedAt), ("completed_at", .string r.stamp.completedAt),
     ("duration_seconds", .number (Number.FloatStyle.document.text r.stamp.seconds)),
     ("tables_total", .ofInt r.tables.length), ("tables_succeeded", .ofInt (r.count .succeeded)),
     ("tables_failed", .ofInt (r.count .failed)), ("tables_skipped", .ofInt (r.count .skipped)),
     ("rows_written", .ofInt r.rowsWritten), ("failed_tables", .ofTexts r.failedTables),
     ("tables", .array (r.tables.map TableReport.toDocument))]

end RunReport

end Ferry
