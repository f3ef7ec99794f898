import Ferry.Config.Basic
import Ferry.FileContent
import Ferry.Postgres.Server
import Ferry.Schema.Document

set_option autoImplicit false

/-! # Snapshots

The content of a database as a document: its tables with their rows, each value as the server
sends it. The numbers of rows and the answers to the two catalog queries may be given apart. A
server can be set up from the files that hold the snapshots of its databases; it refuses
connections to a database without a snapshot. -/

namespace Ferry.Postgres

open Form

/-- A row of cells. -/
def cells : Document → Reading (List Cell) := listOf (nullable text)

/-- The rows that answer a catalog query. -/
def answerRows (d : Document) (key : String) : Reading (Option (List (List Cell))) :=
  orElse d key none (nullable (listOf cells))

/-- The database of a snapshot. -/
def Database.ofDocument (d : Document) : Reading Database := do
  return { tables := ← orElse d "tables" [] (listOf Table.ofDocument)
           rows := ← orElse d "rows" [] (recordOf (listOf cells))
           counts := ← orElse d "counts" [] (recordOf integer)
           columnRows := ← answerRows d "column_rows"
           keyRows := ← answerRows d "pk_rows" }

/-! ## Files -/

/-- The path of the file with the snapshot of a database: the host names its directory. -/
def snapshotPath (e : Endpoint) : String := e.host ++ "/" ++ e.database ++ ".json"

/-- The database of a snapshot file, or the reason why there is none. -/
def Database.ofFile (file : FileContent) : Except String Database := do
  let content ← file.text.mapError MigrationError.message
  match Document.parse? content with
  | none => throw "the snapshot is no document"
  | some d => (Database.ofDocument d).mapError FormIssue.message

/-- The refusal of every connection to a database. -/
def Fault.refusal (address reason : String) : Fault where
  database := some address
  stage := .startup
  part := ""
  nth := none
  effect := .fail ⟨"FATAL", reason, none, none⟩ 0
  seen := 0

/-- The server with one more database, from its snapshot file. -/
def Server.addSnapshot (s : Server) (e : Endpoint) (file : FileContent) : Server :=
  match Database.ofFile file with
  | .ok d => { s with databases := (e.displayName, d) :: s.databases }
  | .error reason => { s with faults := Fault.refusal e.displayName reason :: s.faults }

end Ferry.Postgres
