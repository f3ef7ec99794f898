import Ferry.Document.Printer
import Ferry.Text.Numeral

set_option autoImplicit false

/-! # Forms of documents

Taking a document apart that is to have a known form. A document that does not have it is refused
by its part at fault. -/

namespace Ferry

/-- Why a document does not have the form that is wanted. -/
inductive FormIssue
  | missing (member : String)
  | unexpected (wanted : String) (found : Document)
deriving Inhabited

/-- The wording of an issue. -/
def FormIssue.message : FormIssue → String
  | missing key => "no member " ++ key
  | unexpected wanted found => "no " ++ wanted ++ ": " ++ found.compact

/-- What reading a form comes to. -/
abbrev Reading := Except FormIssue

namespace Form

/-! ## Single values -/

def text : Document → Reading String
  | .string s => .ok s
  | d => .error (.unexpected "text" d)

def truth : Document → Reading Bool
  | .bool b => .ok b
  | d => .error (.unexpected "truth value" d)

/-- The whole number that a text denotes. -/
def integerText (s : String) (d : Document) : Reading Int :=
  match Text.integer? s.toList with
  | some n => .ok n
  | none => .error (.unexpected "whole number" d)

/-- A whole number, also one that is written as a text. -/
def integer (d : Document) : Reading Int :=
  match d with
  | .number s | .string s => integerText s d
  | _ => .error (.unexpected "whole number" d)

/-- A whole number; one below zero counts as zero. -/
def natural (d : Document) : Reading Nat := do return (← integer d).toNat

/-! ## Lists and objects -/

def items : Document → Reading (List Document)
  | .array ds => .ok ds
  | d => .error (.unexpected "list" d)

def members : Document → Reading (List (String × Document))
  | .object ms => .ok ms
  | d => .error (.unexpected "object" d)

/-- A list whose items have one form. -/
def listOf {α : Type} (form : Document → Reading α) (d : Document) : Reading (List α) := do
  (← items d).mapM form

/-- An object whose members have one form. -/
def recordOf {α : Type} (form : Document → Reading α) (d : Document) :
    Reading (List (String × α)) := do
  (← members d).mapM (fun m => do return (m.1, ← form m.2))

def texts : Document → Reading (List String) := listOf text

/-- A form, or null. -/
def nullable {α : Type} (form : Document → Reading α) : Document → Reading (Option α)
  | .null => .ok none
  | d => do return some (← form d)

/-! ## Members -/

def member (d : Document) (key : String) : Reading Document :=
  match d.get? key with
  | some v => .ok v
  | none => .error (.missing key)

/-- A member that may be absent or null. -/
def member? (d : Document) (key : String) : Option Document :=
  match d.get? key with
  | some .null => none
  | other => other

/-- A member of a form, or a value in its place when it is absent or null. -/
def orElse {α : Type} (d : Document) (key : String) (fallback : α)
    (form : Document → Reading α) : Reading α :=
  match member? d key with
  | some v => form v
  | none => .ok fallback

def textMember (d : Document) (key : String) : Reading String := do text (← member d key)

def textOr (d : Document) (key fallback : String) : Reading String := orElse d key fallback text

/-- A truth value that is false when it is left out. -/
def flag (d : Document) (key : String) : Reading Bool := orElse d key false truth

end Form

end Ferry
