import Ferry.Error
import Ferry.Plan.Basic

set_option autoImplicit false

/-! # Checking plans

A plan is checked against the live tables before a row is read. `Plan.issue?` finds the first
thing that is wrong with it; the parts that it looks at, in order, are the copied columns, the
written columns, the bindings, the conflict key and the types of the copied columns. -/

namespace Ferry

/-- What can be wrong with a plan. -/
inductive PlanIssue
  | copiesNothing
  | countMismatch (sources targets : Nat)
  | sourceMissing (column : String)
  | targetMissing (column : String)
  | writtenTwice (column : String)
  | referenceMissing (target column : String)
  | cannotFill (target targetType column columnType : String)
  | valueMisfit (value : Value) (target targetType : String)
  | noConflictKey
  | keyNotWritten (column : String)
  | cannotCopy (source sourceType target targetType : String)

/-- The wording of an issue. -/
def PlanIssue.message : PlanIssue → String
  | .copiesNothing => "plan copies no columns"
  | .countMismatch s t => s!"{s} source column(s) but {t} target column(s)"
  | .sourceMissing c => s!"source has no column '{c}'"
  | .targetMissing c => s!"target has no column '{c}'"
  | .writtenTwice c => s!"target column '{c}' is written twice"
  | .referenceMissing t c => s!"'{t}' refers to source column '{c}', which does not exist"
  | .cannotFill t tt c ct => s!"cannot fill '{t}' ({tt}) from '{c}' ({ct})"
  | .valueMisfit v t tt => "value '" ++ v.display ++ s!"' does not fit '{t}' ({tt})"
  | .noConflictKey => "merge needs a conflict key and the target has no primary key"
  | .keyNotWritten c => s!"conflict key column '{c}' is not written"
  | .cannotCopy s st t tt => s!"cannot copy '{s}' ({st}) into '{t}' ({tt})"

/-! ## Values and types -/

/-- Whether a value fits a numeric column. -/
def Value.fitsNumeric (v : Value) (n : NumericType) : Bool :=
  match v with
  | .null | .int _ => true
  | .float _ => NumericType.real.rank ≤ n.rank
  | .decimal _ => n == .decimal
  | _ => false

/-- Whether a value fits a column that holds neither text, documents nor numbers, by the normal
    form of its type. Text fits wherever the database reads it from a literal. -/
def Value.fitsOther (v : Value) (t : String) : Bool :=
  match v with
  | .null => true
  | .bool _ => t == "boolean" || t == "bool"
  | .uuid _ => t == "uuid"
  | .text s =>
    if t = "uuid" then (Uuid.parse? s).isSome else !(t == "boolean" || t == "bool")
  | .bytes _ => t == "bytea"
  | .timestamp _ | .timestampUtc _ => "timestamp".toList.isPrefixOf t.toList
  | .date _ => t == "date"
  | .time _ => t == "time" || t == "time without time zone"
  | _ => false

/-- Whether a configured value may be written to a column of a declared type. -/
def Value.fits (v : Value) (dataType : String) : Bool :=
  let t := normalizeType dataType
  match ColumnKind.ofType t with
  | .structured | .text =>
    match v with
    | .bytes _ => false
    | _ => true
  | .other =>
    match NumericType.ofNormal? t with
    | some n => v.fitsNumeric n
    | none => v.fitsOther t

/-! ## The parts of a check -/

namespace Plan

/-- The copied columns pair up, and there are some. -/
def shapeIssue? (p : Plan) : Option PlanIssue :=
  if p.sourceColumns.isEmpty then some .copiesNothing
  else if p.sourceColumns.length ≠ p.targetColumns.length then
    some (.countMismatch p.sourceColumns.length p.targetColumns.length)
  else none

/-- The first copied column that the source does not have. -/
def sourceIssue? (source : Table) (names : List String) : Option PlanIssue :=
  (names.find? (fun n => !source.hasColumn n)).map .sourceMissing

/-- The first written column that the target does not have or that was written before. -/
def writeIssue? (target : Table) (seen : List String) : List String → Option PlanIssue
  | [] => none
  | name :: rest =>
    if !target.hasColumn name then some (.targetMissing name)
    else if seen.contains name then some (.writtenTwice name)
    else writeIssue? target (name :: seen) rest

/-- The source column of a binding exists and its type may fill the target column. -/
def referenceIssue? (source : Table) (b : Binding) (t : Column) : Option PlanIssue :=
  match b.filling.reads? with
  | none => none
  | some name =>
    match source.column? name with
    | none => some (.referenceMissing b.target name)
    | some s =>
      if reconcilable s.dataType t.dataType then none
      else some (.cannotFill b.target t.dataType name s.dataType)

/-- What is wrong with a binding whose target column exists. -/
def bindingIssue? (source target : Table) (b : Binding) : Option PlanIssue :=
  match target.column? b.target with
  | none => none
  | some t =>
    match referenceIssue? source b t with
    | some issue => some issue
    | none =>
      if b.filling.constant.fits t.dataType then none
      else some (.valueMisfit b.filling.constant b.target t.dataType)

/-- When rows are merged there is a key, and all of it is written. -/
def keyIssue? (p : Plan) : Option PlanIssue :=
  match p.mode with
  | .replace => none
  | .merge =>
    if p.conflictKey.isEmpty then some .noConflictKey
    else (p.conflictKey.find? (fun n => !p.writeColumns.contains n)).map .keyNotWritten

/-- The types of a copied column allow the copy. -/
def pairIssue? (source target : Table) (pair : String × String) : Option PlanIssue :=
  match source.column? pair.1, target.column? pair.2 with
  | some s, some t =>
    if reconcilable s.dataType t.dataType then none
    else some (.cannotCopy pair.1 s.dataType pair.2 t.dataType)
  | _, _ => none

/-- The first thing that is wrong with a plan. -/
def issue? (p : Plan) (source target : Table) : Option PlanIssue :=
  p.shapeIssue? <|> sourceIssue? source p.sourceColumns <|> writeIssue? target [] p.writeColumns
    <|> p.bindings.findSome? (bindingIssue? source target) <|> p.keyIssue?
    <|> (p.sourceColumns.zip p.targetColumns).findSome? (pairIssue? source target)

/-- Refuse a plan that does not fit the tables. -/
def check (p : Plan) (source target : Table) : Except MigrationError Unit :=
  match p.issue? source target with
  | some issue => .error (.planInvalid p.table issue.message)
  | none => .ok ()

end Plan

end Ferry
