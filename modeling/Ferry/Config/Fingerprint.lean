import Ferry.Config.Basic
import Ferry.Digest.Sha256
import Ferry.Document.Parser
import Ferry.Yaml.Outline

set_option autoImplicit false

/-! # Writing configurations and their fingerprints

A configuration is written as YAML with its fields in a fixed order; parts of an entry that are
left out are not written. The fingerprint is the digest of that text with both passwords blank,
so it names what a run was asked to do and tells nothing of a password. -/

namespace Ferry

open Yaml (Outline)

/-! ## Outlines -/

namespace Document

mutual

/-- A document as an outline. A number becomes fields with its text, so that no digit is lost. -/
def outline : Document → Outline
  | .null => .word "null"
  | .bool b => .word (if b then "true" else "false")
  | .number text => .fields [(numberMarker, .text text)]
  | .string s => .text s
  | .array items => .list (outlines items)
  | .object members => .fields (memberOutlines members)

/-- The outlines of the items of an array. -/
def outlines : List Document → List Outline
  | [] => []
  | d :: rest => outline d :: outlines rest

/-- The outlines of the members of an object. -/
def memberOutlines : List (String × Document) → List (String × Outline)
  | [] => []
  | (k, d) :: rest => (k, outline d) :: memberOutlines rest

end

end Document

/-- A number as an outline. -/
def natOutline (n : Nat) : Outline := .word (toString n)

/-- A truth value as an outline. -/
def boolOutline (b : Bool) : Outline := .word (if b then "true" else "false")

/-- A list of texts as an outline. -/
def textsOutline (texts : List String) : Outline := .list (texts.map .text)

def Endpoint.outline (e : Endpoint) : Outline :=
  .fields
    [("host", .text e.host), ("port", natOutline e.port), ("database", .text e.database),
     ("user", .text e.user), ("password", .text e.password), ("schema", .text e.schema),
     ("ssl_mode", .text e.sslMode)]

def ColumnPair.outline : ColumnPair → Outline
  | .same name => .text name
  | .renamed source target => .fields [("source", .text source), ("target", .text target)]

def Constant.outline : Constant → Outline
  | .column name none => .fields [("column", .text name)]
  | .column name (some d) => .fields [("column", .text name), ("fallback", d.outline)]
  | .value d => .fields [("value", d.outline)]

/-- A field for a list that has members. -/
def listField {α : Type} (name : String) (items : List α) (o : Outline) :
    List (String × Outline) :=
  if items.isEmpty then [] else [(name, o)]

def Entry.outline (e : Entry) : Outline :=
  .fields
    (("table", .text e.table)
      :: (e.mode.toList.map (fun m => ("mode", .text m.text)))
      ++ listField "columns" e.columns (.list (e.columns.map ColumnPair.outline))
      ++ listField "constants" e.constants
          (.fields (e.constants.map (fun c => (c.1, c.2.outline))))
      ++ listField "conflict_key" e.conflictKey (textsOutline e.conflictKey))

def Settings.outline (s : Settings) : Outline :=
  .fields
    [("batch_size", natOutline s.batchSize), ("include_identical", boolOutline s.includeIdentical),
     ("exclude_tables", textsOutline s.excludeTables),
     ("connect_timeout_secs", natOutline s.connectTimeout),
     ("max_connections", natOutline s.maxConnections),
     ("tables", .list (s.tables.map Entry.outline))]

namespace Config

def outline (c : Config) : Outline :=
  .fields
    [("source", c.source.outline), ("target", c.target.outline),
     ("migration", c.migration.outline)]

/-- The configuration as YAML. -/
def yaml (c : Config) : String := c.outline.write

/-! ## Fingerprints -/

/-- The configuration without its passwords. -/
def blanked (c : Config) : Config :=
  { c with
    source := { c.source with password := "" }
    target := { c.target with password := "" } }

/-- The text that the fingerprint is taken of. -/
def fingerprintText (c : Config) : String := c.blanked.yaml

/-- The digest that names a configuration. -/
def fingerprint (c : Config) : String := Sha256.ofText c.fingerprintText

end Config

end Ferry
