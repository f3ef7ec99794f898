import Ferry.CommandLine.Arguments
import Ferry.Config.Fingerprint
import Ferry.Config.Load
import Ferry.Postgres.Sites
import Ferry.Run.Signal

set_option autoImplicit false

/-! # Performing commands

A command loads the configuration, connects to both databases and does its work. Overrides change
the configuration before it is used, and the changed configuration is checked again. Nothing is
connected to before the configuration has passed its checks. -/

namespace Ferry.CommandLine

/-- What a command comes to. -/
inductive Answer
  | report (r : RunReport)
  | comparison (c : Classification)
  | counts (checks : List Run.CountCheck)
  | health (h : Run.Health)

/-- The configuration with overrides. -/
def Overrides.apply (o : Overrides) (c : Config) : Config :=
  { source := { c.source with schema := o.sourceSchema.getD c.source.schema }
    target := { c.target with schema := o.targetSchema.getD c.target.schema }
    migration := { c.migration with batchSize := o.batchSize.getD c.migration.batchSize } }

/-- The configuration that a command works with. -/
def Command.configure (command : Command) (c : Config) : Except MigrationError Config :=
  match command with
  | .run overrides _ =>
    let changed := overrides.apply c
    changed.check.map (fun _ => changed)
  | _ => .ok c

/-- An outcome under another name, and the server after it. -/
def conclude {α : Type} (answer : α → Answer) (r : Except MigrationError α × Postgres.Sites) :
    Except MigrationError Answer × Postgres.Server :=
  (r.1.map answer, r.2.server)

/-- Do the work of a command on both databases. Only a run looks for a signal. -/
def Command.work (command : Command) (signal : Signal) (c : Config) (sites : Postgres.Sites) :
    Except MigrationError Answer × Postgres.Server :=
  let b := Postgres.Sites.backend
  match command with
  | .run _ dryRun =>
    let (outcome, sites) := Run.migrateUnder b signal c dryRun default c.fingerprint sites
    (outcome.map .report, (b.close sites).server)
  | .compare => conclude .comparison (Run.compare b c sites)
  | .validate => conclude .counts (Run.validate b c sites)
  | .healthCheck => conclude .health (Run.healthCheck b sites)

/-- Perform a command with the content of its configuration file, under a signal. The table in
    flight finishes, however long it takes: that the program exits as a cancelled one does once it
    has waited for the shutdown timeout is left out, for it depends on the clock. -/
def Command.performUnder (signal : Signal) (command : Command) (file : FileContent)
    (passwords : Passwords) (server : Postgres.Server) :
    Except MigrationError Answer × Postgres.Server :=
  match (Config.load file passwords).bind command.configure with
  | .error e => (.error e, server)
  | .ok c =>
    match Postgres.Sites.connect c server with
    | (.error e, server) => (.error e, server)
    | (.ok sites, _) => command.work signal c sites

/-- Perform a command when no signal comes. -/
def Command.perform (command : Command) (file : FileContent) (passwords : Passwords)
    (server : Postgres.Server) : Except MigrationError Answer × Postgres.Server :=
  command.performUnder .none file passwords server

end Ferry.CommandLine
