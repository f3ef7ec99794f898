import Ferry.Keyed

set_option autoImplicit false

/-! # Documents

The tree of a JSON text. A number keeps its text, so no digit is ever lost. The members of an
object are a list, which is ascending by key and free of repeated keys in every document that was
read. -/

namespace Ferry

/-- A JSON value. -/
inductive Document
  | null
  | bool (value : Bool)
  /-- A number, by its text. -/
  | number (text : String)
  | string (value : String)
  | array (items : List Document)
  | object (members : List (String × Document))
deriving Inhabited

namespace Document

/-- The empty object. -/
def emptyObject : Document := .object []

/-- The object of a list of members; of several members with one key the last one counts. -/
def ofMembers (members : List (String × Document)) : Document :=
  .object (Keyed.ofEntries members)

/-- The value of a member of an object. -/
def get? (key : String) : Document → Option Document
  | .object members => Keyed.get? key members
  | _ => none

/-- A number document of an integer. -/
def ofInt (n : Int) : Document := .number (toString n)

/-- A text, or null for none. -/
def ofText? : Option String → Document
  | some s => .string s
  | none => .null

/-- The array of some texts. -/
def ofTexts (texts : List String) : Document := .array (texts.map .string)

mutual

/-- Equality of documents, members and number texts included. -/
def beq : Document → Document → Bool
  | .null, .null => true
  | .bool a, .bool b => a == b
  | .number a, .number b => a == b
  | .string a, .string b => a == b
  | .array a, .array b => beqItems a b
  | .object a, .object b => beqMembers a b
  | _, _ => false

/-- Equality of arrays. -/
def beqItems : List Document → List Document → Bool
  | [], [] => true
  | a :: as, b :: bs => beq a b && beqItems as bs
  | _, _ => false

/-- Equality of member lists. -/
def beqMembers : List (String × Document) → List (String × Document) → Bool
  | [], [] => true
  | (k, a) :: as, (l, b) :: bs => k == l && beq a b && beqMembers as bs
  | _, _ => false

end

instance : BEq Document := ⟨beq⟩

end Document

end Ferry
