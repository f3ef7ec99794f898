import Ferry.Error
import Ferry.Text.Quoted

set_option autoImplicit false

/-! # Identifiers

Names of schemas, tables and columns in statements. A name is usable when it is not empty, has no
NUL character and at most 63 bytes of UTF-8. In a statement a name stands between double quotes,
and a double quote inside it is written twice; a text stands between single quotes, with single
quotes doubled. -/

namespace Ferry.Identifier

/-- The greatest number of bytes in a name. -/
def maxBytes : Nat := 63

/-- Why a name cannot be used. -/
inductive Issue
  | empty
  | nul (name : String)
  | tooLong (name : String)
deriving DecidableEq

/-- The wording of an issue. -/
def Issue.message : Issue → String
  | .empty => "Identifier cannot be empty"
  | .nul name => "Identifier contains a null byte: " ++ Text.quoted name
  | .tooLong name =>
    s!"Identifier exceeds {maxBytes} bytes (got {name.utf8ByteSize} bytes): " ++ Text.quoted name

/-- What is wrong with a name, if anything is. -/
def issue? (name : String) : Option Issue :=
  if name.isEmpty then some .empty
  else if name.toList.contains '\x00' then some (.nul name)
  else if maxBytes < name.utf8ByteSize then some (.tooLong name)
  else none

/-- Refuse a name that cannot be used. -/
def check (name : String) : Except MigrationError Unit :=
  match issue? name with
  | some issue => .error (.config issue.message)
  | none => .ok ()

/-- Write each character of one kind twice. -/
def doubled (quote : Char) : List Char → List Char
  | [] => []
  | c :: rest => if c = quote then c :: c :: doubled quote rest else c :: doubled quote rest

/-- The name between double quotes. -/
def quotedForm (name : String) : String :=
  String.ofList ('"' :: doubled '"' name.toList ++ ['"'])

/-- The quoted form of a usable name. -/
def quote (name : String) : Except MigrationError String :=
  (check name).map (fun _ => quotedForm name)

/-- A schema and a table with a point between. -/
def qualify (schema table : String) : Except MigrationError String := do
  let s ← quote schema
  let t ← quote table
  return s ++ "." ++ t

/-- The quoted forms of all names, or the error of the first unusable one. -/
def quoteEach : List String → Except MigrationError (List String)
  | [] => .ok []
  | name :: rest => do
    let q ← quote name
    let qs ← quoteEach rest
    return q :: qs

/-- The quoted forms between commas. -/
def quoteList (names : List String) : Except MigrationError String :=
  (quoteEach names).map (Text.join ", ")

/-- The text of a literal, without its quotes. -/
def escapeLiteral (s : String) : String := String.ofList (doubled '\'' s.toList)

end Ferry.Identifier
