import Ferry.Error
import Ferry.Text.Basic
import Ferry.Text.Lower

set_option autoImplicit false

/-! # Encryption of connections

How a connection to a database is encrypted. -/

namespace Ferry

/-- The encryption of a connection. -/
inductive SslMode
  /-- None. -/
  | disable
  /-- Encrypted; the certificate of the server is not looked at. -/
  | require
  /-- Encrypted; the certificate has to lead to a known authority. -/
  | verifyCa
  /-- Encrypted; the certificate also has to name the server. -/
  | verifyFull
deriving DecidableEq, Inhabited, Repr

namespace SslMode

/-- All modes. -/
def all : List SslMode := [disable, require, verifyCa, verifyFull]

/-- The name of a mode. -/
def text : SslMode → String
  | disable => "disable"
  | require => "require"
  | verifyCa => "verify-ca"
  | verifyFull => "verify-full"

/-- The names of all modes between commas. -/
def allTexts : String := Text.join ", " (all.map text)

/-- The mode of a name in lower case. -/
def ofName? (name : String) : Option SslMode := all.find? (fun m => m.text == name)

/-- The mode of a text, in upper or lower case. An empty text stands for no encryption. -/
def parse (s : String) : Except MigrationError SslMode :=
  let name := Text.lower s
  if name.isEmpty then .ok disable
  else
    match ofName? name with
    | some mode => .ok mode
    | none => .error (.config s!"Invalid ssl_mode '{name}'. Valid values: {allTexts}")

/-- Whether connections are encrypted. -/
def requiresTls (m : SslMode) : Bool := m != disable

end SslMode

end Ferry
