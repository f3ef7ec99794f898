import Ferry.Schema.Catalog
import Ferry.Schema.Difference

set_option autoImplicit false

/-! # Classification of tables

The tables of two catalogs fall into four groups: those with the same columns on both sides,
those that diverge, and those that only one side has. Every group is ascending by name. -/

namespace Ferry

/-- The four groups of tables of a source and a target catalog. -/
structure Classification where
  identical : List String
  /-- Each divergent table with its differences. -/
  divergent : List (String × TableDifference)
  onlyInSource : List String
  onlyInTarget : List String
deriving Inhabited

/-- Look for a text in the part of an ascending array that starts at `first` and has `count`
    members, by halving it. -/
def binarySearch (names : Array String) (name : String) (first : Nat) : Nat → Bool
  | 0 => false
  | count + 1 =>
    let half := (count + 1) / 2
    match names[first + half]? with
    | none => false
    | some found =>
      if found = name then true
      else if found < name then binarySearch names name (first + half + 1) (count - half)
      else binarySearch names name first half
termination_by n => n

namespace Classification

/-- Whether both sides have a table of this name with the same columns. -/
def isIdentical (c : Classification) (name : String) : Bool :=
  binarySearch c.identical.toArray name 0 c.identical.length

/-- The differences of a divergent table. -/
def difference? (c : Classification) (name : String) : Option TableDifference :=
  (c.divergent.find? (fun d => d.1 == name)).map (·.2)

/-- The number of tables that both sides have. -/
def commonCount (c : Classification) : Nat := c.identical.length + c.divergent.length

/-- The groups as a document. -/
def toDocument (c : Classification) : Document :=
  .object
    [("identical", .ofTexts c.identical),
     ("divergent", .object (c.divergent.map (fun d => (d.1, d.2.toDocument)))),
     ("only_in_source", .ofTexts c.onlyInSource), ("only_in_target", .ofTexts c.onlyInTarget)]

end Classification

/-- The groups of the tables of two catalogs. -/
def classify (source target : Catalog) : Classification where
  identical :=
    (source.tables.filter (fun t => (target.get? t.name).any t.sameShape)).map (·.name)
  divergent :=
    source.tables.filterMap (fun t =>
      match target.get? t.name with
      | some other => if t.sameShape other then none else some (t.name, t.difference other)
      | none => none)
  onlyInSource := source.names.filter (fun n => !target.contains n)
  onlyInTarget := target.names.filter (fun n => !source.contains n)

end Ferry
