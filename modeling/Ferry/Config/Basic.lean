import Ferry.Document.Basic

set_option autoImplicit false

/-! # Configurations

What a user writes down about a migration: the two databases, how to move rows, and the tables to
move in order, each with an optional mapping of columns. -/

namespace Ferry

/-- How rows are written to a target table. -/
inductive WriteMode
  /-- Empty the table, then insert every row. -/
  | replace
  /-- Insert, and overwrite the other columns of rows whose key is there already. -/
  | merge
deriving DecidableEq, Inhabited, Repr

/-- The name of a mode. -/
def WriteMode.text : WriteMode → String
  | .replace => "replace"
  | .merge => "merge"

/-- The connection to a database. -/
structure Endpoint where
  host : String
  port : Nat
  database : String
  user : String
  password : String
  /-- The schema of the tables. -/
  schema : String
  sslMode : String
deriving DecidableEq, Inhabited

namespace Endpoint

def defaultPort : Nat := 5432

def defaultSchema : String := "public"

def defaultSslMode : String := "disable"

/-- Host, port and database, for messages. -/
def displayName (e : Endpoint) : String :=
  e.host ++ ":" ++ toString e.port ++ "/" ++ e.database

end Endpoint

/-- A copied column. -/
inductive ColumnPair
  /-- One name on both sides. -/
  | same (name : String)
  | renamed (source target : String)
deriving DecidableEq, Inhabited

namespace ColumnPair

/-- The name in the source. -/
def source : ColumnPair → String
  | same name => name
  | renamed source _ => source

/-- The name in the target. -/
def target : ColumnPair → String
  | same name => name
  | renamed _ target => target

end ColumnPair

/-- What fills a target column that no source column is copied to. -/
inductive Constant
  /-- Another column of the same source row, or the fallback where that is null. -/
  | column (name : String) (fallback : Option Document)
  /-- The same value for every row. -/
  | value (value : Document)
deriving Inhabited

/-- A table to move. -/
structure Entry where
  /-- The name of the table on both sides. -/
  table : String
  mode : Option WriteMode
  columns : List ColumnPair
  /-- What fills further target columns, ascending by target column. -/
  constants : List (String × Constant)
  /-- The columns that identify a row; empty for the primary key of the target. -/
  conflictKey : List String
deriving Inhabited

namespace Entry

/-- An entry that copies a table as it is. -/
def straightCopy (table : String) : Entry := ⟨table, none, [], [], []⟩

/-- Whether the entry maps columns. -/
def isAuthored (e : Entry) : Bool := !e.columns.isEmpty || !e.constants.isEmpty

end Entry

/-- How rows are moved. -/
structure Settings where
  /-- Rows in one fetch and in one statement. -/
  batchSize : Nat
  /-- Whether tables with the same columns on both sides are moved too, behind the listed ones. -/
  includeIdentical : Bool
  /-- Tables that are never moved. -/
  excludeTables : List String
  connectTimeout : Nat
  maxConnections : Nat
  /-- The tables to move, in order. -/
  tables : List Entry

/-- The settings of a configuration that leaves all of them out. -/
def Settings.default : Settings := ⟨1000, false, [], 30, 4, []⟩

instance : Inhabited Settings := ⟨Settings.default⟩

/-- A configuration. -/
structure Config where
  /-- The database that rows are read from. -/
  source : Endpoint
  /-- The database that rows are written to. -/
  target : Endpoint
  migration : Settings
deriving Inhabited

end Ferry
