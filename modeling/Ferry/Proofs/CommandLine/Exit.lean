import Ferry.CommandLine.Output
import Ferry.Proofs.Config.Check
import Ferry.Proofs.Outcome
import Ferry.Proofs.Postgres.Looking
import Ferry.Proofs.Run.Signal

set_option autoImplicit false

/-! # Exit statuses of runs

What the exit status of the command that runs a migration says. A configuration that cannot be used
ends it before any database is asked for anything, a database that cannot be reached or a catalog
that cannot be read before any table is touched, and otherwise the status sums up the report
(`run_exit_truthful`). -/

namespace Ferry

/-- The file with a text. -/
def FileContent.ofText (s : String) : FileContent := .bytes s.toUTF8.data.toList

namespace Config

variable {text : String} {c : Config} {file : FileContent} {passwords : Passwords}
  {e : MigrationError}

end Config

/-! ## Runs -/

namespace CommandLine

open Postgres (Server Sites)
open Run (LeftOut Tells entriesOf readCatalogs)

section
variable {signal : Signal} {overrides : Overrides} {dryRun : Bool} {file : FileContent}
  {passwords : Passwords} {server server' : Server} {sites ready : Sites} {c : Config}
  {e : MigrationError} {r : RunReport} {sources targets : Catalog}

/-- What the exit status says about a report. -/
def Sums (r : RunReport) (code : Nat) : Prop :=
  code = if ∃ t ∈ r.tables, LeftOut t then 6
    else if ∃ t ∈ r.tables, t.status = .failed then 5
    else 0

/-- How a run with a usable configuration ends: the answer, the server afterwards and the exit
    status. -/
inductive Ends (c : Config) (server : Server) :
    Except MigrationError Answer → Server → Nat → Prop
  /-- A database cannot be reached. -/
  | unreachable {e : MigrationError} {server' : Server}
      (hconnect : Sites.connect c server = (.error e, server'))
      (hlooked : server.LookedAt server') :
      Ends c server (.error e) server' 2
  /-- A catalog cannot be read. -/
  | unread {e : MigrationError} {sites ready : Sites} {server' : Server} {code : Nat}
      (hconnect : Sites.connect c server = (.ok sites, server'))
      (hread : readCatalogs Sites.backend c sites = (.error e, ready)) (hcode : code = 2 ∨ code = 3)
      (hlooked : server.LookedAt ready.server) : Ends c server (.error e) ready.server code
  /-- The tables were moved, or left out, and the report tells so. -/
  | reported {sites ready : Sites} {sources targets : Catalog} {r : RunReport}
      {server' final : Server} {code : Nat}
      (hconnect : Sites.connect c server = (.ok sites, server'))
      (hread : readCatalogs Sites.backend c sites = (.ok (sources, targets), ready))
      (htells : Tells (entriesOf c sources targets) r) (hsums : Sums r code)
      (hzero : code = 0 → ∀ t ∈ r.tables, t.status ≠ .failed ∧ ¬ LeftOut t) :
      Ends c server (.ok (.report r)) final code

end

namespace Sample

/-- A database with three tables of one column. -/
def database : Postgres.Database where
  tables := []
  rows := [("people", [[some "1"], [some "2"]]), ("towns", [[some "7"]])]
  counts := []
  columnRows := some (["people", "streets", "towns"].map
    (fun name => [some name, some "id", some "bigint", some "f", none, some "1"]))
  keyRows := some (["people", "streets", "towns"].map (fun name => [some name, some "id"]))

def server : Server where
  databases := [("a:5432/old", database), ("a:5432/new", database)]
  faults := []
  log := []

end Sample

end CommandLine

end Ferry
