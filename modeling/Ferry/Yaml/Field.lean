import Ferry.Yaml.Data

set_option autoImplicit false

/-! # Fields of YAML mappings

Reading a node as a value of a known kind: a text, a number, a list, or the fields of a mapping.
Where a text is wanted every scalar will do, whatever its words mean; where a collection is
wanted, a place where nothing is written is an empty one. Fields of other names are passed over. -/

namespace Ferry.Yaml

namespace Node

/-- Whether nothing is written in the place of the node. -/
def isBlank : Node → Bool
  | .scalar _ text style => text.isEmpty && style == .plain
  | _ => false

/-- The text of a scalar. -/
def text : Node → Except String String
  | .scalar _ text _ => .ok text
  | _ => .error "a text is expected"

/-- The text of a scalar whose words count: a plain one, or a literal block with the right tag. -/
def words (tag : String) : Node → Except String String
  | .scalar t text style =>
    if style = .plain || (style = .literal && t = Data.coreTag tag) then .ok text
    else .error s!"a scalar of the kind {tag} is expected"
  | _ => .error s!"a scalar of the kind {tag} is expected"

/-- A whole number below a bound. -/
def natural (bound : Nat) (n : Node) : Except String Nat := do
  match Plain.natural64? (← n.words "int") with
  | some k => if k < bound then return k else throw "a number is too large"
  | none => throw "a whole number is expected"

/-- A truth value. -/
def bool (n : Node) : Except String Bool := do
  match Plain.bool? (← n.words "bool") with
  | some b => return b
  | none => throw "a truth value is expected"

/-- The items of a sequence. -/
def items : Node → Except String (List Node)
  | .sequence _ items => .ok items
  | n => if n.isBlank then .ok [] else .error "a sequence is expected"

/-- The entries of a mapping. -/
def entries : Node → Except String (List (Node × Node))
  | .mapping _ entries => .ok entries
  | n => if n.isBlank then .ok [] else .error "a mapping is expected"

/-- The items of a sequence, each read in the same way. -/
def list {α : Type} (read : Node → Except String α) (n : Node) : Except String (List α) := do
  (← n.items).mapM read

/-- The texts of a sequence of scalars. -/
def texts : Node → Except String (List String) := list text

end Node

/-! ## Fields -/

/-- The fields of a mapping by name. -/
abbrev Fields := List (String × Node)

namespace Fields

/-- The entries whose keys are among the names; none of them may occur twice. -/
def ofEntries (names : List String) : List (Node × Node) → Except String Fields
  | [] => .ok []
  | (key, value) :: rest => do
    let name ← key.text
    let fields ← ofEntries names rest
    if !names.contains name then return fields
    if (Keyed.get? name fields).isSome then throw s!"the field {name} occurs twice"
    return (name, value) :: fields

/-- The fields of a mapping with these names. -/
def ofNode (names : List String) (n : Node) : Except String Fields := do
  ofEntries names (← n.entries)

/-- Read a field that has to be there. -/
def required {α : Type} (fields : Fields) (name : String) (read : Node → Except String α) :
    Except String α :=
  match Keyed.get? name fields with
  | some n => read n
  | none => .error s!"the field {name} is missing"

/-- Read a field that may be left out. -/
def optional {α : Type} (fields : Fields) (name : String) (default : α)
    (read : Node → Except String α) : Except String α :=
  match Keyed.get? name fields with
  | some n => read n
  | none => .ok default

end Fields

end Ferry.Yaml
