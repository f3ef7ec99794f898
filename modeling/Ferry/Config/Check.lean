import Ferry.Config.Basic
import Ferry.Identifier
import Ferry.SslMode

set_option autoImplicit false

/-! # Checking configurations

What can be told about a configuration on its own, before any database is asked. The first thing
that is wrong is reported: first about the two databases, then about the settings, then about the
tables in order. -/

namespace Ferry

/-- What can be wrong with a configuration. -/
inductive ConfigIssue
  | required (side field : String)
  | unknownSslMode (side text : String)
  | oneDatabase
  | belowOne (field : String)
  | identifier (issue : Identifier.Issue)
  | repeatedTable (name : String)

/-- The wording of an issue. -/
def ConfigIssue.message : ConfigIssue → String
  | .required side field => s!"{side}.{field} is required"
  | .unknownSslMode side text =>
    s!"{side}.ssl_mode must be one of {SslMode.allTexts}, got '{text}'"
  | .oneDatabase => "source and target cannot be the same database"
  | .belowOne field => s!"migration.{field} must be at least 1"
  | .identifier issue => issue.message
  | .repeatedTable name => s!"table '{name}' appears more than once in migration.tables"

/-- What is wrong with the connection to a database. -/
def Endpoint.issue? (side : String) (e : Endpoint) : Option ConfigIssue :=
  if e.host.isEmpty then some (.required side "host")
  else if e.database.isEmpty then some (.required side "database")
  else if e.user.isEmpty then some (.required side "user")
  else if e.schema.isEmpty then some (.required side "schema")
  else if (SslMode.ofName? (Text.lower e.sslMode)).isNone then
    some (.unknownSslMode side e.sslMode)
  else none

/-- Whether two connections lead to one database. -/
def Endpoint.sameDatabase (a b : Endpoint) : Bool :=
  a.host == b.host && a.port == b.port && a.database == b.database

/-- The names of columns in an entry: those of the copied columns, of the constants and of the
    conflict key. -/
def Entry.columnNames (e : Entry) : List String :=
  e.columns.flatMap (fun p => [p.source, p.target]) ++ e.constants.map (·.1) ++ e.conflictKey

/-- What is wrong with the entries behind those of some tables. -/
def Entry.issue? (seen : List String) : List Entry → Option ConfigIssue
  | [] => none
  | e :: rest =>
    match Identifier.issue? e.table with
    | some issue => some (.identifier issue)
    | none =>
      if seen.contains e.table then some (.repeatedTable e.table)
      else
        match e.columnNames.findSome? Identifier.issue? with
        | some issue => some (.identifier issue)
        | none => issue? (e.table :: seen) rest

/-- What is wrong with the settings. -/
def Settings.issue? (s : Settings) : Option ConfigIssue :=
  if s.batchSize = 0 then some (.belowOne "batch_size")
  else if s.maxConnections = 0 then some (.belowOne "max_connections")
  else Entry.issue? [] s.tables

namespace Config

/-- The first thing that is wrong with a configuration. -/
def issue? (c : Config) : Option ConfigIssue :=
  c.source.issue? "source" <|> c.target.issue? "target"
    <|> (if c.source.sameDatabase c.target then some .oneDatabase else none)
    <|> c.migration.issue?

/-- Refuse a configuration that is not usable. -/
def check (c : Config) : Except MigrationError Unit :=
  match c.issue? with
  | some issue => .error (.config issue.message)
  | none => .ok ()

end Config

end Ferry
