import Ferry.Error

set_option autoImplicit false

/-! # Contents of files

What comes of reading a file: its bytes, or the reason why there are none. -/

namespace Ferry

/-- What a file gives when it is read. -/
inductive FileContent
  | bytes (content : List UInt8)
  | missing
  | directory
  | denied
  | unreadable (reason : String)
deriving Inhabited

/-- The text of a file in UTF-8. -/
def FileContent.text : FileContent → Except MigrationError String
  | bytes content =>
    match String.fromUTF8? ⟨content.toArray⟩ with
    | some s => .ok s
    | none => .error (.io "stream did not contain valid UTF-8")
  | missing => .error (.io "No such file or directory (os error 2)")
  | directory => .error (.io "Is a directory (os error 21)")
  | denied => .error (.io "Permission denied (os error 13)")
  | unreadable reason => .error (.io reason)

end Ferry
