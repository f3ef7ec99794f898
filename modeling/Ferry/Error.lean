set_option autoImplicit false

/-! # Errors

What can go wrong in a migration, with the wording of each case, whether it ends the whole run or
only one table, and the exit status that it gives a process. -/

namespace Ferry

/-- An error of the database driver: its text, and the texts of the errors that caused it, the
    nearest cause first. -/
structure DriverError where
  message : String
  causes : List String
deriving DecidableEq, Inhabited

/-- An error of a migration. -/
inductive MigrationError
  /-- The configuration is not usable. -/
  | config (message : String)
  /-- A database cannot be reached. -/
  | connection (database message : String)
  /-- The tables of a schema cannot be read. -/
  | catalogRead (schema message : String)
  /-- A plan does not fit the live tables. -/
  | planInvalid (table message : String)
  /-- Emptying, writing or committing a table failed. -/
  | transfer (table message : String)
  /-- A value cannot be converted for its target column. -/
  | adapt (column message : String)
  /-- A pool gave no connection. -/
  | pool (message context : String)
  /-- The database driver failed. -/
  | database (cause : DriverError)
  /-- A file cannot be read. -/
  | io (message : String)
  /-- A text is no YAML, or not the YAML that was expected. -/
  | yaml (message : String)
  /-- A text is no JSON. -/
  | json (message : String)
  /-- The run was cancelled. -/
  | cancelled
deriving DecidableEq, Inhabited

namespace MigrationError

/-- The wording of an error. -/
def message : MigrationError → String
  | config m => s!"Configuration error: {m}"
  | connection name m => s!"Cannot connect to {name}: {m}"
  | catalogRead schema m => s!"Catalog read failed for schema {schema}: {m}"
  | planInvalid table m => s!"Invalid plan for table {table}: {m}"
  | transfer table m => s!"Transfer failed for table {table}: {m}"
  | adapt column m => s!"Cannot adapt value for column {column}: {m}"
  | pool m context => s!"Pool error: {m}\n  Context: {context}"
  | database cause => "Database error: " ++ cause.message
  | io m => s!"IO error: {m}"
  | yaml m => s!"YAML error: {m}"
  | json m => s!"JSON error: {m}"
  | cancelled => "Migration cancelled"

/-- Whether the error ends the whole run. The others concern one table. -/
def isFatal : MigrationError → Bool
  | planInvalid .. | transfer .. | adapt .. | database .. => false
  | _ => true

/-- The exit status of a process that ends with this error. -/
def exitCode : MigrationError → Nat
  | config .. | yaml .. | json .. => 1
  | connection .. | pool .. => 2
  | catalogRead .. => 3
  | planInvalid .. => 4
  | transfer .. | adapt .. | database .. => 5
  | cancelled => 6
  | io .. => 7

/-- The texts of the errors below this one, the nearest first. -/
def causes : MigrationError → List String
  | database cause => cause.message :: cause.causes
  | io m | yaml m | json m => [m]
  | _ => []

/-- Numbered lines for the causes, counted from `depth`. -/
def causeLines (depth : Nat) : List String → String
  | [] => ""
  | m :: rest => s!"\nCaused by:\n  {depth}: {m}" ++ causeLines (depth + 1) rest

/-- The wording with the whole chain of causes. -/
def detailed (e : MigrationError) : String :=
  s!"Error: {message e}\n" ++ causeLines 1 e.causes

end MigrationError

end Ferry
