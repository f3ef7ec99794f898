import Ferry.Text.Blank
import Ferry.Text.Lower

set_option autoImplicit false

/-! # Declared types

A column's type is kept as the catalog spells it. Two spellings are compared by their normal
form, and what a value needs on its way into a column depends on the column's kind. -/

namespace Ferry

/-- A declared type without blanks around it, in lower case, and cut off where its length or
    precision begins. -/
def normalizeType (dataType : String) : String :=
  let cs := (Text.lower (Text.trim dataType)).toList
  if cs.contains '(' then String.ofList (Text.dropBlankEnd (cs.takeWhile (· ≠ '(')))
  else String.ofList cs

/-- The coarse kind of a declared type. -/
inductive ColumnKind
  /-- Documents: `json` and `jsonb`. -/
  | structured
  /-- Character strings. -/
  | text
  /-- Everything else. -/
  | other
deriving DecidableEq, Inhabited, Repr

/-- Normal forms of the types that hold documents. -/
def structuredTypes : List String := ["json", "jsonb"]

/-- Normal forms of the types that hold character strings. -/
def textTypes : List String :=
  ["text", "character varying", "varchar", "character", "char", "bpchar", "name", "citext"]

/-- The kind of a declared type. -/
def ColumnKind.ofType (dataType : String) : ColumnKind :=
  let t := normalizeType dataType
  if structuredTypes.contains t then .structured
  else if textTypes.contains t then .text
  else .other

/-! ## Numeric types -/

/-- The numeric types, from the narrowest to the widest. -/
inductive NumericType
  | smallint
  | integer
  | bigint
  | real
  | double
  | decimal
deriving DecidableEq, Repr

namespace NumericType

/-- The place in the order. -/
def rank : NumericType → Nat
  | smallint => 0
  | integer => 1
  | bigint => 2
  | real => 3
  | double => 4
  | decimal => 5

/-- The numeric type that a normal form names. -/
def ofNormal? (t : String) : Option NumericType :=
  if t = "smallint" ∨ t = "int2" then some smallint
  else if t = "integer" ∨ t = "int" ∨ t = "int4" then some integer
  else if t = "bigint" ∨ t = "int8" then some bigint
  else if t = "real" ∨ t = "float4" then some real
  else if t = "double precision" ∨ t = "float8" then some double
  else if t = "numeric" ∨ t = "decimal" then some decimal
  else none

/-- Whether every value of the first type may go into a column of the second. A floating-point
    number never becomes a decimal. -/
def widensTo (source target : NumericType) : Bool :=
  match source with
  | smallint | integer | bigint => source.rank ≤ target.rank
  | real => target == real || target == double
  | double => target == double
  | decimal => target == decimal

end NumericType

/-- Whether values of one declared type may be written into a column of another: the same type,
    text and documents in any direction, or a wider numeric type. -/
def reconcilable (source target : String) : Bool :=
  let s := normalizeType source
  let t := normalizeType target
  if s = t then true
  else
    match ColumnKind.ofType s, ColumnKind.ofType t with
    | .other, .other =>
      match NumericType.ofNormal? s, NumericType.ofNormal? t with
      | some a, some b => a.widensTo b
      | _, _ => false
    | .other, _ => false
    | _, .other => false
    | _, _ => true

end Ferry
