import Ferry.Proofs.Pairing
import Ferry.Proofs.Plan.Meaning
import Ferry.Proofs.Transfer.Job

set_option autoImplicit false

/-! # Rows on their way

Adapting a batch is adapting its rows one by one, and adapting a row is adapting its values one by
one, each to the kind of the column that it goes to. For a plan that is sound, what becomes of a row
is what the plan means: `adaptRow_eq_ok_iff`. -/

namespace Ferry.Transfer

section
variable {plan : Plan} {readColumns writeColumns names : List String} {kinds : List ColumnKind}
  {rows out : List Row} {vs ws : List Value}

theorem adaptBatch_eq_ok_iff :
    adaptBatch plan readColumns kinds writeColumns rows = .ok out ↔
      List.Forall₂ (fun row w => adaptRow plan readColumns kinds writeColumns row = .ok w)
        rows out := by
  induction rows generalizing out with
  | nil =>
      rw [List.forall₂_nil_left_iff]
      simp [adaptBatch, eq_comm]
  | cons row rest ih =>
      rw [List.forall₂_cons_left_iff]
      simp only [adaptBatch, bind_eq_ok_iff, pure_eq_ok_iff, ih]
      constructor
      · rintro ⟨w, hw, ws, hws, rfl⟩
        exact ⟨w, ws, hw, hws, rfl⟩
      · rintro ⟨w, ws, hw, hws, rfl⟩
        exact ⟨w, hw, ws, hws, rfl⟩

theorem adaptValues_eq_ok_iff {kindOf : String → ColumnKind} :
    adaptValues (names.map kindOf) names vs = .ok ws ↔
      List.Forall₂ (fun (x : String × Value) w => x.2.adapt (kindOf x.1) x.1 = .ok w)
        (names.zip vs) ws := by
  induction names generalizing vs ws with
  | nil =>
      rw [List.zip_nil_left, List.forall₂_nil_left_iff]
      simp [adaptValues, eq_comm]
  | cons name rest ih =>
      cases vs with
      | nil =>
          rw [List.zip_nil_right, List.forall₂_nil_left_iff]
          simp [adaptValues, eq_comm]
      | cons v vs =>
          rw [List.zip_cons_cons, List.forall₂_cons_left_iff]
          simp only [List.map_cons, adaptValues, bind_eq_ok_iff, pure_eq_ok_iff, ih]
          constructor
          · rintro ⟨w, hw, ws, hws, rfl⟩
            exact ⟨w, ws, hw, hws, rfl⟩
          · rintro ⟨w, ws, hw, hws, rfl⟩
            exact ⟨w, hw, ws, hws, rfl⟩

/-- A row has as many values as the columns that are written, unless it was short of columns to
    copy. -/
theorem length_adaptRow {target : Table} {row out : Row}
    (hpairs : plan.sourceColumns.length = plan.targetColumns.length)
    (h : adaptRow plan readColumns (plan.writeColumns.map target.kindOf) plan.writeColumns row
      = .ok out) :
    out.length = min plan.sourceColumns.length row.length + plan.bindings.length := by
  rw [adaptRow, adaptValues_eq_ok_iff] at h
  rw [← h.length_eq, List.length_zip]
  simp only [Plan.writeColumns, Plan.project, List.length_append, List.length_map, List.length_take]
  omega

end

section
variable {job : Job} {xs ys as bs : List Row}

theorem Job.adapt_eq_ok_iff :
    job.adapt xs = .ok as ↔
      List.Forall₂ (fun row w =>
        adaptRow job.plan job.readColumns job.kinds job.writeTarget.columns row = .ok w) xs as :=
  adaptBatch_eq_ok_iff

@[simp] theorem Job.adapt_nil : job.adapt [] = .ok [] := rfl

theorem Job.adapt_append (hxs : job.adapt xs = .ok as) (hys : job.adapt ys = .ok bs) :
    job.adapt (xs ++ ys) = .ok (as ++ bs) :=
  Job.adapt_eq_ok_iff.2
    (List.rel_append (Job.adapt_eq_ok_iff.1 hxs) (Job.adapt_eq_ok_iff.1 hys))

end

/-! ## What becomes of a row -/

/-- A row is what a plan makes of a source row: for each column that is written the value that the
    plan gives to it, in the form that the column takes. -/
def Makes (plan : Plan) (target : Table) (value : String → Value) (out : Row) : Prop :=
  List.Forall₂ (fun name x => (∃ v, plan.Gives value name v) ∧
    ∀ v, plan.Gives value name v → v.adapt (target.kindOf name) name = .ok x) plan.writeColumns out

section
variable {plan : Plan} {source target : Table} {value : String → Value} {out : Row}

theorem adaptRow_eq_ok_iff (h : plan.Sound source target) :
    adaptRow plan plan.readColumns (plan.writeColumns.map target.kindOf) plan.writeColumns
        (plan.readColumns.map value) = .ok out ↔ Makes plan target value out := by
  have hlength := Plan.length_project (List.length_map value) h.pairs
  have hnames : (plan.writeColumns.zip
      (plan.project plan.readColumns (plan.readColumns.map value))).map Prod.fst
        = plan.writeColumns := List.map_fst_zip (Nat.le_of_eq hlength.symm)
  rw [adaptRow, adaptValues_eq_ok_iff, Makes]
  conv_rhs => rw [← hnames]
  rw [List.forall₂_map_left_iff]
  refine forall₂_congr_of_mem ?_
  rintro ⟨name, v⟩ hmem x
  -- A column that is written occurs once, so the plan gives it this value and no other.
  have honly (v' : Value) : plan.Gives value name v' ↔ v' = v := by
    rw [Plan.gives_iff h.pairs]
    exact ⟨fun h' => eq_of_mem_zip h.writes_once h' hmem, fun heq => heq ▸ hmem⟩
  simp [honly]

/-- A plan makes something of a source row if every value that it gives can be adapted. -/
theorem exists_makes (h : plan.Sound source target)
    (hadapt : ∀ name v, plan.Gives value name v → ∃ x, v.adapt (target.kindOf name) name = .ok x) :
    ∃ out, Makes plan target value out := by
  simp only [← adaptRow_eq_ok_iff h, adaptRow, adaptValues_eq_ok_iff]
  refine exists_forall₂ ?_
  rintro ⟨name, v⟩ hmem
  exact hadapt name v ((Plan.gives_iff h.pairs).2 hmem)

theorem Job.exists_adapt {job : Job} {rows : List Row}
    (h : ∀ row ∈ rows, ∃ w,
      adaptRow job.plan job.readColumns job.kinds job.writeTarget.columns row = .ok w) :
    ∃ out, job.adapt rows = .ok out := by
  obtain ⟨out, hout⟩ := exists_forall₂ h
  exact ⟨out, Job.adapt_eq_ok_iff.2 hout⟩

/-- The rows that are written are those that the plan makes of the source rows. -/
theorem Job.adapt_map_eq_ok_iff {batchSize : Nat} {job : Job} {rows out : List Row}
    {value : Row → String → Value} (h : plan.Sound source target)
    (hjob : Job.ofPlan plan source target batchSize = .ok job) :
    job.adapt (rows.map (fun row => plan.readColumns.map (value row))) = .ok out ↔
      List.Forall₂ (fun row w => Makes plan target (value row) w) rows out := by
  obtain ⟨columns, -, rfl⟩ := Job.ofPlan_eq_ok_iff.1 hjob
  simp only [Job.adapt_eq_ok_iff, List.forall₂_map_left_iff, adaptRow_eq_ok_iff h]

end

end Ferry.Transfer
