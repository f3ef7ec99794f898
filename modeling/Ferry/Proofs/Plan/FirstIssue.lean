import Ferry.Proofs.Plan.Check
import Mathlib.Tactic.ByContra
import Mathlib.Tactic.SplitIfs

set_option autoImplicit false

/-! # Which issue a check reports

`Plan.conditions` lists all that a plan has to meet, one condition after the other and each with the
issue that stands for it. A check passes when all of them hold, and otherwise it reports the issue
of the first one that fails (`check_reports_first_failing`). A part of the check goes through a part
of the list (`Finds`), and may rely on the parts in front of it: what type a column has is looked at
only when it is known that there is such a column. -/

namespace Ferry

/-- Something that has to hold, with the issue that is reported where it fails. -/
structure Condition where
  holds : Prop
  issue : PlanIssue

/-- The issue is that of the first condition of a list that fails. -/
def FirstFailing (conditions : List Condition) (issue : PlanIssue) : Prop :=
  ∃ before failing after, conditions = before ++ failing :: after ∧
    (∀ c ∈ before, c.holds) ∧ ¬ failing.holds ∧ failing.issue = issue

/-- A search through conditions finds the issue of the first one that fails, or nothing. -/
def Finds (conditions : List Condition) (found : Option PlanIssue) : Prop :=
  ∀ issue, found = some issue ↔ FirstFailing conditions issue

/-! ## Searching through conditions -/

theorem firstFailing_nil (issue : PlanIssue) : ¬ FirstFailing [] issue := by
  rintro ⟨before, failing, after, heq, -⟩
  cases before <;> cases heq

theorem firstFailing_cons (c : Condition) (rest : List Condition) (issue : PlanIssue) :
    FirstFailing (c :: rest) issue ↔
      (¬ c.holds ∧ c.issue = issue) ∨ (c.holds ∧ FirstFailing rest issue) := by
  constructor
  · rintro ⟨before, failing, after, heq, hbefore, hfails, hissue⟩
    cases before with
    | nil =>
        cases heq
        exact .inl ⟨hfails, hissue⟩
    | cons first before =>
        cases heq
        refine .inr ⟨hbefore c List.mem_cons_self, before, failing, after, rfl, ?_, hfails, hissue⟩
        intro d hd
        exact hbefore d (List.mem_cons_of_mem _ hd)
  · rintro (⟨hfails, hissue⟩ | ⟨hholds, before, failing, after, rfl, hbefore, hfails, hissue⟩)
    · exact ⟨[], c, rest, rfl, by simp, hfails, hissue⟩
    · refine ⟨c :: before, failing, after, rfl, ?_, hfails, hissue⟩
      intro d hd
      rcases List.mem_cons.1 hd with rfl | hd
      · exact hholds
      · exact hbefore d hd

theorem firstFailing_append (front back : List Condition) (issue : PlanIssue) :
    FirstFailing (front ++ back) issue ↔
      FirstFailing front issue ∨ ((∀ c ∈ front, c.holds) ∧ FirstFailing back issue) := by
  induction front with
  | nil => simp [firstFailing_nil]
  | cons c front ih =>
      rw [List.cons_append, firstFailing_cons, ih, firstFailing_cons, List.forall_mem_cons,
        or_assoc, and_or_left, and_assoc]

theorem exists_firstFailing (conditions : List Condition) (h : ¬ ∀ c ∈ conditions, c.holds) :
    ∃ issue, FirstFailing conditions issue := by
  induction conditions with
  | nil => simp at h
  | cons c rest ih =>
      by_cases hc : c.holds
      · obtain ⟨issue, hissue⟩ := ih (fun hrest => h (List.forall_mem_cons.2 ⟨hc, hrest⟩))
        exact ⟨issue, (firstFailing_cons c rest issue).2 (.inr ⟨hc, hissue⟩)⟩
      · exact ⟨c.issue, (firstFailing_cons c rest c.issue).2 (.inl ⟨hc, rfl⟩)⟩

namespace Finds

variable {conditions front back : List Condition} {found first second : Option PlanIssue}

/-- Nothing is found when all conditions hold, and only then. -/
theorem eq_none_iff (h : Finds conditions found) : found = none ↔ ∀ c ∈ conditions, c.holds := by
  constructor
  · intro hnone
    by_contra hfails
    obtain ⟨issue, hissue⟩ := exists_firstFailing conditions hfails
    have hfound := (h issue).2 hissue
    rw [hnone] at hfound
    cases hfound
  · intro hall
    rw [Option.eq_none_iff_forall_ne_some]
    intro issue hfound
    obtain ⟨before, failing, after, rfl, -, hfails, -⟩ := (h issue).1 hfound
    exact hfails (hall failing (by simp))

theorem nil : Finds [] none := by
  intro issue
  simp [firstFailing_nil]

/-- One search behind another. The second one may rely on what the first one went through. -/
theorem append (hfront : Finds front first)
    (hback : (∀ c ∈ front, c.holds) → Finds back second) :
    Finds (front ++ back) (first.or second) := by
  intro issue
  rw [firstFailing_append, ← hfront issue]
  cases first with
  | none =>
      have hall : ∀ c ∈ front, c.holds := hfront.eq_none_iff.1 rfl
      rw [Option.none_or, hback hall issue]
      exact ⟨fun hissue => .inr ⟨hall, hissue⟩, fun h => (h.resolve_left nofun).2⟩
  | some i =>
      have hfails : ¬ ∀ c ∈ front, c.holds := fun hall =>
        Option.some_ne_none i (hfront.eq_none_iff.2 hall)
      simp [hfails]

/-- A search that decides one condition. -/
theorem ite (p : Prop) [Decidable p] (issue : PlanIssue) :
    Finds [⟨p, issue⟩] (if p then none else some issue) := by
  intro i
  rw [firstFailing_cons]
  by_cases hp : p <;> simp [hp, firstFailing_nil]

/-- A search for the first of some names that lacks a property. -/
theorem find (holds : String → Prop) [DecidablePred holds] (issue : String → PlanIssue)
    (names : List String) :
    Finds (names.map (fun n => ⟨holds n, issue n⟩))
      ((names.find? (fun n => !Decidable.decide (holds n))).map issue) := by
  induction names with
  | nil => exact nil
  | cons name rest ih =>
      have hsearch : ((name :: rest).find? (fun n => !Decidable.decide (holds n))).map issue =
          (if holds name then none else some (issue name)).or
            ((rest.find? (fun n => !Decidable.decide (holds n))).map issue) := by
        by_cases hname : holds name <;> simp [hname]
      rw [hsearch]
      exact (ite _ _).append (fun _ => ih)

/-- A search that goes through the members of a list. -/
theorem flatMap {α : Type} (xs : List α) (conditions : α → List Condition)
    (found : α → Option PlanIssue) (h : ∀ x ∈ xs, Finds (conditions x) (found x)) :
    Finds (xs.flatMap conditions) (xs.findSome? found) := by
  induction xs with
  | nil => exact nil
  | cons x xs ih =>
      obtain ⟨hx, hxs⟩ := List.forall_mem_cons.1 h
      have hsearch : (x :: xs).findSome? found = (found x).or (xs.findSome? found) := by
        rw [List.findSome?_cons]
        cases found x <;> rfl
      rw [List.flatMap_cons, hsearch]
      exact hx.append (fun _ => ih hxs)

end Finds

/-! ## The conditions -/

/-- The declared type of the column that a table has under a name. -/
def Table.typeOf (t : Table) (name : String) : String := (t.column? name).elim "" Column.dataType

namespace Plan

/-- There are copied columns, and they pair up. -/
def shapeConditions (p : Plan) : List Condition :=
  [⟨p.sourceColumns ≠ [], .copiesNothing⟩,
    ⟨p.sourceColumns.length = p.targetColumns.length,
      .countMismatch p.sourceColumns.length p.targetColumns.length⟩]

/-- The source has a column that is copied. -/
def sourceCondition (source : Table) (name : String) : Condition :=
  ⟨source.column? name ≠ none, .sourceMissing name⟩

/-- The target has the written column at a place, and it is not written in front of that place. -/
def writeConditions (target : Table) (columns : List String) (place : String × Nat) :
    List Condition :=
  [⟨target.column? place.1 ≠ none, .targetMissing place.1⟩,
    ⟨place.1 ∉ columns.take place.2, .writtenTwice place.1⟩]

/-- The column that a filling refers to is there, and its type may fill the target column. -/
def referenceConditions (source : Table) (b : Binding) (targetType : String) : List Condition :=
  match b.filling.reads? with
  | none => []
  | some name =>
    [⟨source.column? name ≠ none, .referenceMissing b.target name⟩,
      ⟨reconcilable (source.typeOf name) targetType,
        .cannotFill b.target targetType name (source.typeOf name)⟩]

/-- A filled column can take the column that its filling refers to, and the constant. -/
def bindingConditions (source target : Table) (b : Binding) : List Condition :=
  referenceConditions source b (target.typeOf b.target)
    ++ [⟨b.filling.constant.fits (target.typeOf b.target),
          .valueMisfit b.filling.constant b.target (target.typeOf b.target)⟩]

/-- When rows are merged there is a key, and all of it is written. -/
def keyConditions (p : Plan) : List Condition :=
  match p.mode with
  | .replace => []
  | .merge =>
    ⟨p.conflictKey ≠ [], .noConflictKey⟩
      :: p.conflictKey.map (fun name => ⟨name ∈ p.writeColumns, .keyNotWritten name⟩)

/-- The types of a copied column allow the copy. -/
def pairCondition (source target : Table) (pair : String × String) : Condition :=
  ⟨reconcilable (source.typeOf pair.1) (target.typeOf pair.2),
    .cannotCopy pair.1 (source.typeOf pair.1) pair.2 (target.typeOf pair.2)⟩

/-- All that a plan has to meet, in the order in which it is looked at. -/
def conditions (p : Plan) (source target : Table) : List Condition :=
  p.shapeConditions
    ++ p.sourceColumns.map (sourceCondition source)
    ++ p.writeColumns.zipIdx.flatMap (writeConditions target p.writeColumns)
    ++ p.bindings.flatMap (bindingConditions source target)
    ++ p.keyConditions
    ++ (p.sourceColumns.zip p.targetColumns).map (pairCondition source target)

/-! ## Each part of a check searches its conditions -/

section
variable {p : Plan} {source target : Table}

theorem finds_shapeIssue? (p : Plan) : Finds p.shapeConditions p.shapeIssue? := by
  have hsearch : p.shapeIssue? =
      (if p.sourceColumns ≠ [] then none else some PlanIssue.copiesNothing).or
        (if p.sourceColumns.length = p.targetColumns.length then none
          else some (.countMismatch p.sourceColumns.length p.targetColumns.length)) := by
    unfold shapeIssue?
    cases p.sourceColumns with
    | nil => rfl
    | cons name rest => split_ifs <;> simp_all
  rw [hsearch]
  exact (Finds.ite _ _).append (fun _ => Finds.ite _ _)

theorem finds_sourceIssue? (source : Table) (names : List String) :
    Finds (names.map (sourceCondition source)) (sourceIssue? source names) := by
  have hmissing : (fun n => !source.hasColumn n)
      = (fun n => !Decidable.decide (source.column? n ≠ none)) := by
    funext n
    cases hn : source.column? n <;> simp [Table.hasColumn, hn]
  unfold sourceIssue?
  rw [hmissing]
  exact Finds.find _ _ names

/-- The columns in front are those that the search has seen, in whatever order it keeps them. -/
theorem finds_writeIssue? (target : Table) (before seen names : List String)
    (hseen : ∀ n, n ∈ seen ↔ n ∈ before) :
    Finds ((names.zipIdx before.length).flatMap (writeConditions target (before ++ names)))
      (writeIssue? target seen names) := by
  induction names generalizing before seen with
  | nil => exact .nil
  | cons name rest ih =>
      have hsearch : writeIssue? target seen (name :: rest) =
          ((if target.column? name ≠ none then none else some (PlanIssue.targetMissing name)).or
            (if name ∉ before then none else some (.writtenTwice name))).or
              (writeIssue? target (name :: seen) rest) := by
        rw [writeIssue?, Table.hasColumn]
        cases target.column? name with
        | none => simp
        | some c => by_cases hmem : name ∈ before <;> simp [hseen, hmem]
      have hplace : writeConditions target (before ++ name :: rest) (name, before.length)
          = [⟨target.column? name ≠ none, .targetMissing name⟩,
              ⟨name ∉ before, .writtenTwice name⟩] := by
        simp [writeConditions]
      have hrest := ih (before ++ [name]) (name :: seen) (by simp [hseen, or_comm])
      rw [List.length_append, List.length_singleton, List.append_assoc, List.singleton_append]
        at hrest
      rw [hsearch, List.zipIdx_cons, List.flatMap_cons, hplace]
      exact ((Finds.ite _ _).append (fun _ => Finds.ite _ _)).append (fun _ => hrest)

theorem typeOf_eq {t : Table} {name : String} {c : Column} (h : t.column? name = some c) :
    t.typeOf name = c.dataType := by
  rw [Table.typeOf, h, Option.elim_some]

theorem finds_referenceIssue? (source : Table) (b : Binding) (t : Column) :
    Finds (referenceConditions source b t.dataType) (referenceIssue? source b t) := by
  unfold referenceConditions
  cases hreads : b.filling.reads? with
  | none =>
      have hsearch : referenceIssue? source b t = none := by simp only [referenceIssue?, hreads]
      rw [hsearch]
      exact .nil
  | some name =>
      have hsearch : referenceIssue? source b t =
          (if source.column? name ≠ none then none
            else some (PlanIssue.referenceMissing b.target name)).or
          (if reconcilable (source.typeOf name) t.dataType then none
            else some (.cannotFill b.target t.dataType name (source.typeOf name))) := by
        simp only [referenceIssue?, hreads]
        cases hs : source.column? name with
        | none => simp
        | some s => simp [typeOf_eq hs]
      rw [hsearch]
      exact (Finds.ite _ _).append (fun _ => Finds.ite _ _)

theorem finds_bindingIssue? (source : Table) {b : Binding} (h : target.column? b.target ≠ none) :
    Finds (bindingConditions source target b) (bindingIssue? source target b) := by
  obtain ⟨t, ht⟩ := Option.ne_none_iff_exists'.1 h
  have hsearch : bindingIssue? source target b = (referenceIssue? source b t).or
      (if b.filling.constant.fits t.dataType then none
        else some (.valueMisfit b.filling.constant b.target t.dataType)) := by
    simp only [bindingIssue?, ht]
    cases referenceIssue? source b t with
    | none => rw [Option.none_or]
    | some issue => rw [Option.some_or]
  rw [hsearch, bindingConditions, typeOf_eq ht]
  exact (finds_referenceIssue? source b t).append (fun _ => Finds.ite _ _)

theorem finds_keyIssue? (p : Plan) : Finds p.keyConditions p.keyIssue? := by
  unfold keyConditions keyIssue?
  cases p.mode with
  | replace => exact .nil
  | merge =>
      have hempty : (if p.conflictKey.isEmpty then some PlanIssue.noConflictKey
          else (p.conflictKey.find? (fun n => !p.writeColumns.contains n)).map .keyNotWritten)
          = (if p.conflictKey ≠ [] then none else some PlanIssue.noConflictKey).or
            ((p.conflictKey.find? (fun n => !Decidable.decide (n ∈ p.writeColumns))).map
              .keyNotWritten) := by
        cases p.conflictKey <;> simp
      simp only [hempty]
      exact (Finds.ite _ _).append (fun _ => Finds.find _ _ _)

theorem finds_pairIssue? {pair : String × String} (hs : source.column? pair.1 ≠ none)
    (ht : target.column? pair.2 ≠ none) :
    Finds [pairCondition source target pair] (pairIssue? source target pair) := by
  obtain ⟨s, hs⟩ := Option.ne_none_iff_exists'.1 hs
  obtain ⟨t, ht⟩ := Option.ne_none_iff_exists'.1 ht
  unfold pairCondition pairIssue?
  rw [typeOf_eq hs, typeOf_eq ht, hs, ht]
  exact Finds.ite _ _

/-- The search for an issue goes through all conditions of a plan. -/
theorem finds_issue? (p : Plan) (source target : Table) :
    Finds (p.conditions source target) (p.issue? source target) := by
  unfold conditions issue?
  simp only [Option.orElse_eq_orElse, Option.orElse_eq_or, ← Option.or_assoc]
  have hsource := finds_sourceIssue? source p.sourceColumns
  have hwrite := finds_writeIssue? target [] [] p.writeColumns (by simp)
  refine ((((((finds_shapeIssue? p).append (fun _ => hsource)).append (fun _ => hwrite)).append
    (fun hfront => ?_)).append (fun _ => finds_keyIssue? p)).append (fun hfront => ?_))
  · -- The columns to fill are among the written ones, and the target was found to have those.
    have hall := hwrite.eq_none_iff.2 (fun c hc => hfront c (List.mem_append_right _ hc))
    have hhas := (writeIssue?_eq_none_iff.1 hall).1
    refine Finds.flatMap _ _ _ (fun b hb => finds_bindingIssue? source (hhas b.target ?_))
    exact List.mem_append_right _ (List.mem_map_of_mem hb)
  · rw [List.forall_mem_append, List.forall_mem_append, List.forall_mem_append,
      List.forall_mem_append] at hfront
    obtain ⟨⟨⟨⟨-, hsources⟩, hwrites⟩, -⟩, -⟩ := hfront
    have hhas := sourceIssue?_eq_none_iff.1 (hsource.eq_none_iff.2 hsources)
    have hhas' := (writeIssue?_eq_none_iff.1 (hwrite.eq_none_iff.2 hwrites)).1
    rw [List.map_eq_flatMap]
    refine Finds.flatMap _ _ _ (fun pair hpair => ?_)
    obtain ⟨hleft, hright⟩ := List.of_mem_zip hpair
    exact finds_pairIssue? (hhas _ hleft) (hhas' _ (List.mem_append_left _ hright))

/-- A plan is sound when it meets every condition. -/
theorem sound_iff_conditions (p : Plan) (source target : Table) :
    p.Sound source target ↔ ∀ c ∈ p.conditions source target, c.holds := by
  rw [← issue?_eq_none_iff, (finds_issue? p source target).eq_none_iff]

theorem check_eq_error_iff (p : Plan) (source target : Table) (e : MigrationError) :
    p.check source target = .error e ↔
      ∃ issue, p.issue? source target = some issue ∧ e = .planInvalid p.table issue.message := by
  unfold check
  cases p.issue? source target <;> simp [eq_comm]

end

/-- A check accepts just the sound plans, which are those that meet every condition. Otherwise it
    refuses the plan by the name of its table, with the issue of the first condition that fails. -/
theorem check_reports_first_failing (p : Plan) (source target : Table) :
    (p.check source target = .ok () ↔ p.Sound source target) ∧
      (p.Sound source target ↔ ∀ c ∈ p.conditions source target, c.holds) ∧
      ∀ e, p.check source target = .error e ↔
        ∃ issue, FirstFailing (p.conditions source target) issue ∧
          e = .planInvalid p.table issue.message := by
  refine ⟨check_eq_ok_iff, sound_iff_conditions p source target, ?_⟩
  intro e
  rw [check_eq_error_iff]
  exact exists_congr (fun issue => and_congr_left' (finds_issue? p source target issue))

/-- The key is missing as well, but a missing column comes first. -/
example : { Sample.plan with sourceColumns := ["id", "age"], conflictKey := [] }.check
    Sample.people Sample.guests = .error (.planInvalid "people" "source has no column 'age'") := rfl

end Plan

end Ferry
