import Ferry.Config.Basic
import Ferry.Text.Quoted

set_option autoImplicit false

/-! # Configurations as documents

A configuration as a document, and the connection to a database as a line that may be logged. -/

namespace Ferry

def Endpoint.toDocument (e : Endpoint) : Document :=
  .object
    [("host", .string e.host), ("port", .ofInt e.port), ("database", .string e.database),
     ("user", .string e.user), ("password", .string e.password), ("schema", .string e.schema),
     ("ssl_mode", .string e.sslMode)]

/-- The connection for a log: with a mark in place of the password. -/
def Endpoint.loggable (e : Endpoint) : String :=
  "DatabaseConfig \x7b host: " ++ Text.quoted e.host ++ ", port: " ++ toString e.port
    ++ ", database: " ++ Text.quoted e.database ++ ", user: " ++ Text.quoted e.user
    ++ ", password: " ++ Text.quoted "[REDACTED]" ++ ", schema: " ++ Text.quoted e.schema
    ++ ", ssl_mode: " ++ Text.quoted e.sslMode ++ " \x7d"

def ColumnPair.toDocument : ColumnPair → Document
  | .same name => .string name
  | .renamed source target => .object [("source", .string source), ("target", .string target)]

def Constant.toDocument : Constant → Document
  | .column name none => .object [("column", .string name)]
  | .column name (some d) => .object [("column", .string name), ("fallback", d)]
  | .value d => .object [("value", d)]

/-- A member for a list that has members. -/
def listMember {α : Type} (name : String) (items : List α) (d : Document) :
    List (String × Document) :=
  if items.isEmpty then [] else [(name, d)]

/-- The entry as a document; what it leaves out is not there. -/
def Entry.toDocument (e : Entry) : Document :=
  .object
    (("table", .string e.table)
      :: (e.mode.toList.map (fun m => ("mode", .string m.text)))
      ++ listMember "columns" e.columns (.array (e.columns.map ColumnPair.toDocument))
      ++ listMember "constants" e.constants
          (.object (e.constants.map (fun c => (c.1, c.2.toDocument))))
      ++ listMember "conflict_key" e.conflictKey (.ofTexts e.conflictKey))

def Settings.toDocument (s : Settings) : Document :=
  .object
    [("batch_size", .ofInt s.batchSize), ("include_identical", .bool s.includeIdentical),
     ("exclude_tables", .ofTexts s.excludeTables),
     ("connect_timeout_secs", .ofInt s.connectTimeout),
     ("max_connections", .ofInt s.maxConnections),
     ("tables", .array (s.tables.map Entry.toDocument))]

def Config.toDocument (c : Config) : Document :=
  .object
    [("source", c.source.toDocument), ("target", c.target.toDocument),
     ("migration", c.migration.toDocument)]

end Ferry
