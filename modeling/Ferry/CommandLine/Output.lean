import Ferry.CommandLine.Perform
import Ferry.Text.Quoted

set_option autoImplicit false

/-! # Output of the program

The text that a command prints, for people or as a document, and the exit status. A run that was
cancelled says so by its status, and so does one in which a table failed; so does a count that
does not match, and a database that does not answer. -/

namespace Ferry.CommandLine

/-- What takes place in time. -/
structure Timing where
  stamp : RunStamp
  sourceLatencyMs : Nat
  targetLatencyMs : Nat
deriving Inhabited

/-- What the program leaves: its output, its complaints and its exit status. -/
structure Outcome where
  out : String
  err : String
  code : Nat
deriving DecidableEq, Inhabited

/-- Lines, each with its line break. -/
def lines (ls : List String) : String := String.join (ls.map (· ++ "\n"))

/-! ## Reports of runs -/

/-- The name of a table in a column of 32 characters. -/
def tableColumn (name : String) : String := Text.padRight 32 name

/-- How a run went, in a few words. -/
def runTitle (r : RunReport) : String :=
  if r.dryRun then "Dry run completed!"
  else
    match r.status with
    | .completed => "Migration completed!"
    | .completedWithErrors => "Migration completed with errors"
    | .cancelled => "Migration cancelled"

/-- How a table ended, in a few words. -/
def tableOutcome (t : TableReport) : String :=
  match t.status with
  | .succeeded => toString t.rowsWritten ++ " rows"
  | .failed => "FAILED: " ++ t.error.getD "unknown error"
  | .skipped => "skipped: " ++ t.detail.getD ""

/-- The report of a run for people. -/
def reportLines (r : RunReport) : List String :=
  ["", runTitle r, "  Run ID: " ++ r.stamp.runId,
   "  Duration: " ++ r.stamp.seconds.fixedText 2 ++ "s",
   "  Tables: " ++ toString (r.count .succeeded) ++ " succeeded, " ++ toString (r.count .failed)
     ++ " failed, " ++ toString (r.count .skipped) ++ " skipped of " ++ toString r.tables.length,
   "  Rows: " ++ toString r.rowsWritten]
    ++ r.tables.map (fun t => "    " ++ tableColumn t.table ++ " " ++ tableOutcome t)
    ++ (if r.failedTables.isEmpty then []
        else ["  Failed tables: " ++ Text.quotedList r.failedTables])

/-! ## Comparisons -/

/-- A heading with the number of its items, and the items. -/
def listed (title : String) (names : List String) : List String :=
  (title ++ " (" ++ toString names.length ++ "):") :: names.map ("  " ++ ·)

/-- The lines about a change of a column. -/
def changeLines (c : ColumnChange) : List String :=
  let line (what : String) : String := "    ~ " ++ c.column ++ ": " ++ what
  let truth (b : Bool) : String := if b then "true" else "false"
  (c.dataType.toList.map (fun p => line (p.1 ++ " -> " ++ p.2)))
    ++ (c.nullable.toList.map (fun p => line ("nullable " ++ truth p.1 ++ " -> " ++ truth p.2)))
    ++ (c.default.toList.map (fun p =>
        line ("default " ++ p.1.getD "none" ++ " -> " ++ p.2.getD "none")))

/-- The lines about a divergent table. -/
def differenceLines (name : String) (d : TableDifference) : List String :=
  ("  " ++ name)
    :: d.onlyInSource.map (fun c => "    - " ++ c ++ " (source only)")
    ++ d.onlyInTarget.map (fun c => "    + " ++ c ++ " (target only)")
    ++ d.changed.flatMap changeLines
    ++ (if d.reordered.isEmpty then []
        else ["    reordered: " ++ Text.join ", " d.reordered])

/-- A comparison for people. -/
def comparisonLines (c : Classification) : List String :=
  listed "Identical tables" c.identical
    ++ ["", "Divergent tables (" ++ toString c.divergent.length ++ "):"]
    ++ c.divergent.flatMap (fun d => differenceLines d.1 d.2)
    ++ "" :: listed "Only in source" c.onlyInSource
    ++ "" :: listed "Only in target" c.onlyInTarget

/-! ## Counts -/

/-- The number of counts that do not match. -/
def mismatches (checks : List Run.CountCheck) : Nat :=
  (checks.filter (fun c => !c.isMatch)).length

/-- The line about the counts of a table. -/
def countLine (c : Run.CountCheck) : String :=
  "  " ++ tableColumn c.table ++ " source=" ++ Text.padRight 10 (toString c.sourceRows)
    ++ " target=" ++ Text.padRight 10 (toString c.targetRows) ++ " "
    ++ (if c.isMatch then "OK" else "MISMATCH")

/-- Counts for people. -/
def countLines (checks : List Run.CountCheck) : List String :=
  checks.map countLine
    ++ ["", "Validation completed: " ++ toString checks.length ++ " tables, "
          ++ toString (mismatches checks) ++ " mismatched"]

/-! ## Health -/

/-- The lines about one database. -/
def probeLines (side : String) (p : Probe) (latencyMs : Nat) : List String :=
  ("  " ++ side ++ ": " ++ (if p.connected then "OK" else "FAILED") ++ " (" ++ toString latencyMs
      ++ "ms)")
    :: p.error.toList.map ("    Error: " ++ ·)

/-- The health of both databases for people. -/
def healthLines (h : Run.Health) (t : Timing) : List String :=
  "Health Check Results:"
    :: probeLines "Source" h.source t.sourceLatencyMs
    ++ probeLines "Target" h.target t.targetLatencyMs
    ++ ["", "  Overall: " ++ (if h.isHealthy then "HEALTHY" else "UNHEALTHY")]

/-- The members about one database. -/
def probeMembers (side : String) (p : Probe) (latencyMs : Nat) : List (String × Document) :=
  [(side ++ "_connected", .bool p.connected), (side ++ "_latency_ms", .ofInt latencyMs)]
    ++ p.error.toList.map (fun e => (side ++ "_error", .string e))

/-- The health of both databases as a document. -/
def healthDocument (h : Run.Health) (t : Timing) : Document :=
  .object
    (probeMembers "source" h.source t.sourceLatencyMs
      ++ probeMembers "target" h.target t.targetLatencyMs ++ [("healthy", .bool h.isHealthy)])

/-- The error of databases that do not answer. -/
def unhealthy : MigrationError :=
  .connection "health check" "one or both databases are unreachable"

/-! ## Outcomes -/

/-- The exit status of a run. -/
def runCode (r : RunReport) : Nat :=
  if r.status = .cancelled then MigrationError.cancelled.exitCode
  else if r.succeeded then 0
  else (MigrationError.transfer "" "").exitCode

/-- The error that a command ends with although it has an answer. -/
def Answer.failure? : Answer → Option MigrationError
  | .health h => if h.isHealthy then none else some unhealthy
  | _ => none

/-- The exit status of an answer. -/
def Answer.code : Answer → Nat
  | .report r => runCode r
  | .comparison _ => 0
  | .counts checks => if mismatches checks = 0 then 0 else (MigrationError.transfer "" "").exitCode
  | .health h => if h.isHealthy then 0 else unhealthy.exitCode

/-- An answer for people. -/
def Answer.toLines (t : Timing) : Answer → List String
  | .report r => reportLines { r with stamp := t.stamp }
  | .comparison c => comparisonLines c
  | .counts checks => countLines checks
  | .health h => healthLines h t

/-- An answer as a document. -/
def Answer.toDocument (t : Timing) : Answer → Document
  | .report r => { r with stamp := t.stamp }.toDocument
  | .comparison c => c.toDocument
  | .counts checks => .array (checks.map Run.CountCheck.toDocument)
  | .health h => healthDocument h t

/-- The complaint about an error. -/
def complaint (e : MigrationError) : String := e.detailed ++ "\n"

/-- The outcome of a command. -/
def outcome (o : Options) (t : Timing) (r : Except MigrationError Answer) : Outcome :=
  match r with
  | .error e => ⟨"", complaint e, e.exitCode⟩
  | .ok a =>
    ⟨if o.outputJson then lines [(a.toDocument t).pretty] else lines (a.toLines t),
      (a.failure?.map complaint).getD "", a.code⟩

/-! ## Requests that need no configuration -/

/-- The name of the program. -/
def programName : String := "drift-migrate"

/-- The version of the program. -/
def version : String := "0.1.0"

/-- The usage of the program. -/
def usage : String :=
  lines
    ["Schema-aware migration between drifted PostgreSQL databases", "",
     "Usage: " ++ programName ++ " [OPTIONS] <COMMAND>", "",
     "Commands:",
     "  run           Migrate every table in the configured run order",
     "  compare       Compare source and target schemas table by table",
     "  validate      Validate row counts between source and target",
     "  health-check  Test database connections"]

/-- The outcome of arguments that cannot be used. -/
def refused (issue : UsageIssue) : Outcome :=
  ⟨"", lines ["error: " ++ issue.message, ""] ++ usage, 2⟩

/-- The outcome of a request for the version. -/
def versionOutcome : Outcome := ⟨lines [programName ++ " " ++ version], "", 0⟩

/-- The outcome of a request for help. -/
def helpOutcome : Outcome := ⟨usage, "", 0⟩

end Ferry.CommandLine
