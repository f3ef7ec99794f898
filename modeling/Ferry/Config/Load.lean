import Ferry.Config.Check
import Ferry.Config.Reader
import Ferry.FileContent

set_option autoImplicit false

/-! # Loading configurations

From the content of a file to a configuration that has passed its checks. A password that is given
apart, as from the environment, replaces the one in the file. -/

namespace Ferry

/-- Passwords that are given apart from the file. -/
structure Passwords where
  source : Option String
  target : Option String
deriving Inhabited

namespace Config

/-- Read a configuration from a text and check it. -/
def ofText (text : String) : Except MigrationError Config := do
  let c ← parse text
  c.check
  return c

/-- The configuration with the passwords that are given apart. -/
def withPasswords (c : Config) (p : Passwords) : Config :=
  { c with
    source := { c.source with password := p.source.getD c.source.password }
    target := { c.target with password := p.target.getD c.target.password } }

/-- Load a configuration from a file and check it. -/
def load (file : FileContent) (passwords : Passwords) : Except MigrationError Config := do
  let c := (← parse (← file.text)).withPasswords passwords
  c.check
  return c

end Config

end Ferry
