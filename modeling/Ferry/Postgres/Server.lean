import Ferry.Keyed
import Ferry.Postgres.Statement

set_option autoImplicit false

/-! # A scripted server

A server that answers from tables that are written down, for rehearsing a migration. A connection
keeps what its transaction has staged: the numbers of rows that it sees in place of the published
ones, and the rows that its cursor has still to give. Faults can make chosen statements fail.

Values are only ever read. Of a write the server keeps the number of rows that a table has
afterwards, which is all that is asked of it later. -/

namespace Ferry.Postgres

/-! ## Databases -/

/-- A value of a table as it is written down: its content, unless it is null. -/
abbrev Cell := Option String

/-- A database. -/
structure Database where
  tables : List Table
  /-- Rows by table, with one cell for each column. -/
  rows : List (String × List (List Cell))
  /-- Numbers of rows that differ from the numbers of rows written down. -/
  counts : List (String × Int)
  /-- The answer to the query for columns, in place of the tables. -/
  columnRows : Option (List (List Cell))
  /-- The answer to the query for primary keys, in place of the tables. -/
  keyRows : Option (List (List Cell))
deriving Inhabited

/-- The type without what it has between parentheses. -/
def withoutModifier (dataType : String) : String :=
  let cs := dataType.toList
  match (cs.dropWhile (· ≠ '(')).dropWhile (· ≠ ')') with
  | ')' :: rest => String.ofList (cs.takeWhile (· ≠ '(') ++ rest)
  | _ => dataType

/-- The type in which the server sends a column. -/
def WireType.ofDeclared (dataType : String) : WireType :=
  (Decoder.ofNormal (Text.trim (Text.lower (withoutModifier dataType)))).wireType

namespace Database

def table? (d : Database) (name : String) : Option Table :=
  d.tables.find? (fun t => t.name == name)

def rowsOf (d : Database) (table : String) : List (List Cell) :=
  (Keyed.get? table d.rows).getD []

/-- The number of rows of a table. -/
def countOf (d : Database) (table : String) : Int :=
  (Keyed.get? table d.counts).getD (d.rowsOf table).length

/-- The value of a column in a row, as it is sent when the column is selected. -/
def wire (t : Table) (row : List Cell) (c : Column) : Wire :=
  let values := t.columns.zip row
  match values.find? (fun v => v.1.name == c.name) with
  | some (declared, content) =>
    let type :=
      if (Decoder.ofType c.dataType).needsCast then .text
      else WireType.ofDeclared declared.dataType
    ⟨type, content⟩
  | none => ⟨.text, none⟩

/-- The rows of a selection. -/
def selection (d : Database) (table : String) (columns : List Column) : List (List Wire) :=
  match d.table? table with
  | some t => (d.rowsOf table).map (fun row => columns.map (wire t row))
  | none => []

/-- The tables ascending by name. -/
def sortedTables (d : Database) : List Table :=
  d.tables.mergeSort (fun a b => a.name ≤ b.name)

/-- A row about a column of a table. -/
def columnRow (t : Table) (c : Column) : List Cell :=
  [some t.name, some c.name, some c.dataType, some (if c.isNullable then "t" else "f"), c.default,
    some (toString c.position)]

/-- The answer to the query for columns. -/
def allColumnRows (d : Database) : List (List Cell) :=
  d.columnRows.getD (d.sortedTables.flatMap (fun t => t.columns.map (columnRow t)))

/-- The answer to the query for primary keys. -/
def allKeyRows (d : Database) : List (List Cell) :=
  d.keyRows.getD (d.sortedTables.flatMap (fun t =>
    t.primaryKey.map (fun name => [some t.name, some name])))

end Database

/-- The columns of the answer to the query for columns, and of that for primary keys. -/
def catalogTypes : List WireType := [.text, .text, .text, .bool, .text, .int4]

/-- Cells with the types of the columns that they stand in. -/
def typed (types : List WireType) (row : List Cell) : List Wire :=
  (types.zip row).map (fun p => ⟨p.1, p.2⟩)

/-! ## Connections -/

/-- A connection to a database, with what the server keeps for it. -/
structure Connection where
  /-- The number of the connection among those of its pool. -/
  id : Nat
  /-- The address of the database. -/
  database : String
  inTransaction : Bool
  /-- Numbers of rows that the transaction sees in place of the published ones. -/
  staged : List (String × Int)
  /-- Rows that the cursor has still to give. -/
  pending : List (List Wire)
deriving Inhabited

namespace Connection

/-- A connection that has just been opened. -/
def fresh (id : Nat) (database : String) : Connection := ⟨id, database, false, [], []⟩

/-- What a command leaves of a transaction, when it succeeds. -/
def after (c : Connection) : Command → Connection
  | .start => { c with inTransaction := true }
  | .finish => { c with inTransaction := false, staged := [], pending := [] }
  | .work => c

/-- The connection after some commands have succeeded. -/
def afterAll (c : Connection) (commands : List Command) : Connection := commands.foldl after c

/-- The connection after a statement has failed behind its first `done` commands. At least the
    last one was not carried out, and the one that failed leaves a transaction as it was. -/
def afterFailure (c : Connection) (s : Statement) (done : Nat) : Connection :=
  c.afterAll (s.commands.dropLast.take done)

end Connection

/-! ## Faults -/

/-- When a fault can strike. -/
inductive Stage
  /-- When a connection is opened. -/
  | startup
  | prepare
  | execute
deriving DecidableEq, Inhabited, Repr

/-- An error of the server. -/
structure ServerError where
  severity : String
  message : String
  detail : Option String
  hint : Option String
deriving DecidableEq, Inhabited

/-- The error of the server as the error of the client. -/
def ServerError.driverError (e : ServerError) : DriverError where
  message := "db error"
  causes :=
    [e.severity ++ ": " ++ e.message ++ (e.detail.elim "" ("\nDETAIL: " ++ ·))
      ++ (e.hint.elim "" ("\nHINT: " ++ ·))]

/-- What a fault does. -/
inductive FaultEffect
  /-- The statement fails behind its first `done` commands. -/
  | fail (error : ServerError) (done : Nat)
  /-- An insertion reports another number of rows. -/
  | miscount (rows : Nat)
deriving DecidableEq, Inhabited

/-- A fault waits for statements that have a text in them. It strikes every such statement, or
    only the one of a number, counted from one. -/
structure Fault where
  database : Option String
  stage : Stage
  part : String
  nth : Option Nat
  effect : FaultEffect
  /-- The number of statements it has waited for so far. -/
  seen : Nat
deriving Inhabited

namespace Fault

/-- Whether a fault waits for a statement. -/
def awaits (f : Fault) (stage : Stage) (database text : String) : Bool :=
  f.stage == stage && (f.database.isNone || f.database == some database)
    && Text.contains text f.part

/-- The fault after a statement. -/
def after (f : Fault) (stage : Stage) (database text : String) : Fault :=
  if f.awaits stage database text then { f with seen := f.seen + 1 } else f

/-- Whether a fault strikes a statement. -/
def strikes (f : Fault) (stage : Stage) (database text : String) : Bool :=
  f.awaits stage database text && (f.nth.isNone || f.nth == some (f.seen + 1))

end Fault

/-! ## The server -/

/-- A statement that was sent to a database. -/
structure Sent where
  database : String
  statement : Statement
deriving Inhabited

/-- A server with its databases by address, the faults to come, and what was sent to it so far. -/
structure Server where
  databases : List (String × Database)
  faults : List Fault
  /-- The statements so far, the last one first. -/
  log : List Sent
deriving Inhabited

/-- What a statement answers. -/
inductive Reply
  | done
  | rows (rows : List (List Wire))
  /-- The number of rows of a table. -/
  | count (n : Int)
  /-- The number of rows that were written. -/
  | inserted (n : Nat)
deriving Inhabited

/-- The rows of an answer. -/
def Reply.rowList : Reply → List (List Wire)
  | rows rs => rs
  | _ => []

/-- The number of rows of a table that an answer gives. -/
def Reply.counted : Reply → Int
  | count n => n
  | _ => 0

/-- The number of rows written that an answer gives. -/
def Reply.written : Reply → Nat
  | inserted n => n
  | _ => 0

namespace Server

/-- The database of an address; one that is not there is empty. -/
def database (s : Server) (address : String) : Database :=
  (Keyed.get? address s.databases).getD default

/-- The server with another content of a database. -/
def withDatabase (s : Server) (address : String) (d : Database) : Server :=
  { s with databases := s.databases.map (fun e => if e.1 = address then (address, d) else e) }

/-- Find out whether a fault strikes: the first one does. -/
def strike (s : Server) (stage : Stage) (database text : String) :
    Option FaultEffect × Server :=
  ((s.faults.find? (fun f => f.strikes stage database text)).map (·.effect),
    { s with faults := s.faults.map (fun f => f.after stage database text) })

/-- Open a connection. -/
def startUp (s : Server) (database : String) : Except DriverError Unit × Server :=
  match s.strike .startup database "" with
  | (some (.fail e _), s) => (.error e.driverError, s)
  | (_, s) => (.ok (), s)

/-- Prepare a statement. -/
def prepare (s : Server) (c : Connection) (statement : Statement) :
    Except DriverError Unit × Server :=
  match s.strike .prepare c.database statement.text with
  | (some (.fail e _), s) => (.error e.driverError, s)
  | (_, s) => (.ok (), s)

/-- The number of rows of a table as a connection sees it. -/
def countFor (s : Server) (c : Connection) (table : String) : Int :=
  (Keyed.get? table c.staged).getD ((s.database c.database).countOf table)

/-- Publish what a connection has staged. -/
def publish (s : Server) (c : Connection) : Server :=
  let d := s.database c.database
  s.withDatabase c.database
    { d with counts := c.staged.foldl (fun counts e => Keyed.put e.1 e.2 counts) d.counts }

/-- Carry out a statement that does not fail. `inserted` is the number of rows that an insertion
    reports, where it is not the number of its rows. -/
def perform (s : Server) (c : Connection) (statement : Statement) (inserted : Option Nat) :
    Reply × Connection × Server :=
  let d := s.database c.database
  let moved := c.afterAll statement.commands
  match statement with
  | .probe | .startTransaction | .closeCursor _ | .rollback => (.done, moved, s)
  | .columns _ => (.rows (d.allColumnRows.map (typed catalogTypes)), moved, s)
  | .primaryKeys _ => (.rows (d.allKeyRows.map (typed catalogTypes)), moved, s)
  | .openCursor _ _ table columns =>
    (.done, { moved with pending := d.selection table columns }, s)
  | .fetch size _ =>
    (.rows (c.pending.take size), { moved with pending := c.pending.drop size }, s)
  | .truncate table _ => (.done, { moved with staged := Keyed.put table 0 c.staged }, s)
  | .insert table rows _ =>
    let n := inserted.getD rows
    (.inserted n, { moved with staged := Keyed.put table (s.countFor c table + n) c.staged }, s)
  | .commit => (.done, moved, s.publish c)
  | .count table _ => (.count (s.countFor c table), moved, s)

/-- Execute a statement. -/
def execute (s : Server) (c : Connection) (statement : Statement) :
    Except DriverError Reply × Connection × Server :=
  let s := { s with log := ⟨c.database, statement⟩ :: s.log }
  match s.strike .execute c.database statement.text with
  | (some (.fail e done), s) => (.error e.driverError, c.afterFailure statement done, s)
  | (effect, s) =>
    let inserted :=
      match effect with
      | some (.miscount n) => some n
      | _ => none
    let (reply, c, s) := s.perform c statement inserted
    (.ok reply, c, s)

/-- Prepare a statement and execute it. -/
def query (s : Server) (c : Connection) (statement : Statement) :
    Except DriverError Reply × Connection × Server :=
  match s.prepare c statement with
  | (.error e, s) => (.error e, c, s)
  | (.ok _, s) => s.execute c statement

/-- The statements so far in order, and the server with an empty log. -/
def takeLog (s : Server) : List Sent × Server := (s.log.reverse, { s with log := [] })

end Server

end Ferry.Postgres
