import Ferry.Config.Basic
import Ferry.Error
import Ferry.Yaml.Field

set_option autoImplicit false

/-! # Reading configurations

From the nodes of a YAML text to a configuration. Three fields of each database are required, as
is the name of a table; all else has a default. What a constant and a copied column look like is
decided by their shape: a text, or a mapping with certain keys. -/

namespace Ferry

open Yaml (Data Fields Node)

/-! ## Shapes -/

namespace ConfigShape

/-- The greatest number of collections inside each other in a configuration. -/
def maxDepth : Nat := 128

/-- The name of a key among the fields of a shape: a text names a field, and a number counts the
    fields from zero. -/
def fieldName (names : List String) : Data → Except String (Option String)
  | .string s => .ok (if names.contains s then some s else none)
  | .int n => if 0 ≤ n then .ok names[n.toNat]? else .error "a key is negative"
  | _ => .error "a key is no text"

/-- The entries whose keys are fields of a shape; none of them may occur twice. -/
def fields (names : List String) :
    List (Data × Data) → Except String (List (String × Data))
  | [] => .ok []
  | (key, value) :: rest => do
    let name ← fieldName names key
    let found ← fields names rest
    match name with
    | none => return found
    | some name =>
      if (Keyed.get? name found).isSome then throw s!"the field {name} occurs twice"
      return (name, value) :: found

/-- A text under a key. -/
def textField (name : String) (found : List (String × Data)) : Except String String :=
  match (Keyed.get? name found).bind Data.string? with
  | some s => .ok s
  | none => .error s!"the text {name} is missing"

/-- A document that stands for a value. -/
def document (d : Data) : Except String Document :=
  match d.document? with
  | some document => .ok document
  | none => .error "a value is no document"

end ConfigShape

namespace ColumnPair

open ConfigShape

/-- A copied column: a text, or a mapping with both names. -/
def ofData : Data → Except String ColumnPair
  | .string name => .ok (.same name)
  | .mapping entries => do
    let found ← fields ["source", "target"] entries
    return .renamed (← textField "source" found) (← textField "target" found)
  | _ => .error "a column is a text or a mapping"

end ColumnPair

namespace Constant

open ConfigShape

/-- Another column, with a fallback that may be left out. -/
def columnOfEntries (entries : List (Data × Data)) : Except String Constant := do
  let found ← fields ["column", "fallback"] entries
  let name ← textField "column" found
  match Keyed.get? "fallback" found with
  | none | some .null => return .column name none
  | some d => return .column name (some (← document d))

/-- A fixed value. -/
def valueOfEntries (entries : List (Data × Data)) : Except String Constant := do
  let found ← fields ["value"] entries
  match Keyed.get? "value" found with
  | some d => return .value (← document d)
  | none => throw "a constant has no value"

/-- A constant: a column if the entries name one, else a value. -/
def ofData : Data → Except String Constant
  | .mapping entries =>
    match columnOfEntries entries with
    | .ok c => .ok c
    | .error _ => valueOfEntries entries
  | _ => .error "a constant is a mapping"

end Constant

/-! ## Parts of a configuration -/

namespace WriteMode

/-- The mode of a name. -/
def ofName (name : String) : Except String WriteMode :=
  if name = WriteMode.replace.text then .ok .replace
  else if name = WriteMode.merge.text then .ok .merge
  else .error "a mode is not known"

/-- Whether a scalar in the place of a mode means that there is none. -/
def isLeftOut (tag text : String) (style : Yaml.Style) : Except String Bool :=
  if style ≠ .plain then .ok false
  else if tag.isEmpty then .ok (text.isEmpty || Yaml.Plain.isNullWord text)
  else if tag = Data.coreTag "null" then
    if Yaml.Plain.isNullWord text then .ok true else .error "a tagged scalar is not null"
  else .ok false

/-- A mode, which may be left out. A tag of one's own names it as well as a text does. -/
def ofNode : Node → Except String (Option WriteMode)
  | .scalar tag text style => do
    if ← isLeftOut tag text style then return none
    if Data.isOwnTag tag then
      if style = .plain && (text.isEmpty || Yaml.Plain.isNullWord text) then
        return some (← ofName (String.ofList (tag.toList.drop 1)))
      else throw "a mode has a value"
    return some (← ofName text)
  | _ => .error "a mode is a text"

end WriteMode

namespace Entry

def fieldNames : List String := ["table", "mode", "columns", "constants", "conflict_key"]

/-- The constants of an entry by target column; of several for one column the last one counts. -/
def constantsOfNode (room : Nat) (n : Node) : Except String (List (String × Constant)) := do
  let read (e : Node × Node) : Except String (String × Constant) := do
    let name ← e.1.text
    let constant ← Constant.ofData (← Data.ofNode room e.2)
    return (name, constant)
  return Keyed.ofEntries (← (← n.entries).mapM read)

/-- An entry; there is room for `room` collections inside each other, the entry among them. -/
def ofNode (room : Nat) (n : Node) : Except String Entry := do
  let fields ← Fields.ofNode fieldNames n
  let pair (n : Node) : Except String ColumnPair := do
    ColumnPair.ofData (← Data.ofNode (room - 2) n)
  return {
    table := ← fields.required "table" Node.text
    mode := ← fields.optional "mode" none WriteMode.ofNode
    columns := ← fields.optional "columns" [] (Node.list pair)
    constants := ← fields.optional "constants" [] (constantsOfNode (room - 2))
    conflictKey := ← fields.optional "conflict_key" [] Node.texts }

end Entry

namespace Settings

def fieldNames : List String :=
  ["batch_size", "include_identical", "exclude_tables", "connect_timeout_secs",
    "max_connections", "tables"]

/-- Settings; those that are left out have their defaults. -/
def ofNode (room : Nat) (n : Node) : Except String Settings := do
  let fields ← Fields.ofNode fieldNames n
  let d := Settings.default
  return {
    batchSize := ← fields.optional "batch_size" d.batchSize (Node.natural (Nat.pow 2 64))
    includeIdentical := ← fields.optional "include_identical" d.includeIdentical Node.bool
    excludeTables := ← fields.optional "exclude_tables" d.excludeTables Node.texts
    connectTimeout :=
      ← fields.optional "connect_timeout_secs" d.connectTimeout (Node.natural (Nat.pow 2 64))
    maxConnections :=
      ← fields.optional "max_connections" d.maxConnections (Node.natural (Nat.pow 2 64))
    tables := ← fields.optional "tables" d.tables (Node.list (Entry.ofNode (room - 2))) }

end Settings

namespace Endpoint

def fieldNames : List String :=
  ["host", "port", "database", "user", "password", "schema", "ssl_mode"]

/-- The connection to a database: host, database and user are required. -/
def ofNode (n : Node) : Except String Endpoint := do
  let fields ← Fields.ofNode fieldNames n
  return {
    host := ← fields.required "host" Node.text
    port := ← fields.optional "port" defaultPort (Node.natural (Nat.pow 2 16))
    database := ← fields.required "database" Node.text
    user := ← fields.required "user" Node.text
    password := ← fields.optional "password" "" Node.text
    schema := ← fields.optional "schema" defaultSchema Node.text
    sslMode := ← fields.optional "ssl_mode" defaultSslMode Node.text }

end Endpoint

namespace Config

/-- A configuration. -/
def ofNode (n : Node) : Except String Config := do
  let fields ← Fields.ofNode ["source", "target", "migration"] n
  return {
    source := ← fields.required "source" Endpoint.ofNode
    target := ← fields.required "target" Endpoint.ofNode
    migration :=
      ← fields.optional "migration" Settings.default
        (Settings.ofNode (ConfigShape.maxDepth - 1)) }

/-- Read a value from a YAML text. -/
def parseWith {α : Type} (read : Node → Except String α) (text : String) :
    Except MigrationError α :=
  match Node.parse text with
  | .error message => .error (.yaml message)
  | .ok n =>
    match read n with
    | .error message => .error (.yaml message)
    | .ok value => .ok value

/-- Read a configuration from a YAML text. -/
def parse : String → Except MigrationError Config := parseWith ofNode

end Config

/-- Read an entry from a YAML text. -/
def Entry.parse : String → Except MigrationError Entry :=
  Config.parseWith (Entry.ofNode ConfigShape.maxDepth)

/-- Read settings from a YAML text. -/
def Settings.parse : String → Except MigrationError Settings :=
  Config.parseWith (Settings.ofNode ConfigShape.maxDepth)

end Ferry
