import Ferry.Proofs.Postgres.Decoder
import Ferry.Proofs.Sql.Insert
import Ferry.Proofs.Transfer.Rows

set_option autoImplicit false

/-! # What a check promises

A plan that was made of an entry and passed its check can be carried out: whatever rows the source
delivers, none of their values and none of the constants fails to be adapted, and the rows that come
of them can be written as a statement. -/

namespace Ferry

/-! ## Constants -/

namespace Value

/-- A value is not a floating-point number that is infinite or not a number. -/
def Finite (v : Value) : Prop := ∀ x, v = .float x → x.isFinite

theorem ofNumberText_finite (numeral : String) : (ofNumberText numeral).Finite := by
  intro x hx
  unfold ofNumberText at hx
  split at hx
  · cases hx
  · split at hx
    · next d _ =>
        by_cases hfinite : d.toBinary64.isFinite
        · rw [if_pos hfinite] at hx
          cases hx
          exact hfinite
        · rw [if_neg hfinite] at hx
          cases hx
          rfl
    · cases hx
      rfl

theorem ofLiteral_finite (d : Document) : (ofLiteral d).Finite := by
  cases d with
  | number numeral => exact ofNumberText_finite numeral
  | _ => exact fun x hx => by cases hx

/-- A constant that fits a column can be adapted to it. -/
theorem adapt_isOk_of_fits {v : Value} {dataType name : String} (hfits : v.fits dataType)
    (hfinite : v.Finite) : (v.adapt (ColumnKind.ofType dataType) name).isOk := by
  rw [adapt_isOk_iff]
  intro hkind
  obtain ⟨-, hstructured⟩ := normal_of_structured hkind
  cases v with
  | float x => exact hfinite x rfl
  | bytes b =>
      unfold fits at hfits
      simp only [hstructured] at hfits
      exact absurd hfits (by decide)
  | _ => rfl

end Value

theorem Plan.ofEntry_finite (entry : Entry) (source target : Table) :
    ∀ b ∈ (Plan.ofEntry entry source target).bindings, b.filling.constant.Finite := by
  intro b hb
  rcases Plan.constant_of_mem_ofEntry hb with hnull | ⟨d, hd⟩
  · rw [hnull]
    exact fun x hx => by cases hx
  · rw [hd]
    exact Value.ofLiteral_finite d

/-! ## Rows -/

namespace Transfer

/-- A source delivers null or a value that the decoder of the column gives. -/
def Delivers (source : Table) (name : String) (v : Value) : Prop :=
  ∀ c, source.column? name = some c → (Postgres.Decoder.ofType c.dataType).yields v

section
variable {plan : Plan} {source target : Table} {row out : Row} {origin name : String} {v : Value}
  {s t : Column}

theorem adapt_isOk_of_delivers (hv : Delivers source origin v)
    (hs : source.column? origin = some s) (ht : target.column? name = some t)
    (htypes : reconcilable s.dataType t.dataType) : (v.adapt (target.kindOf name) name).isOk := by
  rw [Table.kindOf_eq ht]
  exact Postgres.Decoder.adapt_isOk_of_reconcilable htypes (hv s hs)

/-- What a binding gives for a row that the source delivers can be adapted. -/
theorem adapt_isOk_of_binding (h : plan.Sound source target) {b : Binding} (hb : b ∈ plan.bindings)
    (hfinite : b.filling.constant.Finite)
    (hrow : List.Forall₂ (Delivers source) plan.readColumns row) :
    ((b.resolve plan.readColumns row).adapt (target.kindOf b.target) b.target).isOk := by
  have hwritten : b.target ∈ plan.writeColumns :=
    List.mem_append_right _ (List.mem_map_of_mem hb)
  obtain ⟨t, ht⟩ := Option.ne_none_iff_exists'.1 (h.has_target _ hwritten)
  obtain ⟨hfits, hrefers⟩ := h.fills b hb t ht
  have hconstant : (b.filling.constant.adapt (target.kindOf b.target) b.target).isOk := by
    rw [Table.kindOf_eq ht]
    exact Value.adapt_isOk_of_fits hfits hfinite
  cases hfilling : b.filling with
  | literal value =>
      rw [hfilling] at hconstant
      rw [Binding.resolve, hfilling]
      exact hconstant
  | column reference fallback =>
      have hreads : b.filling.reads? = some reference := by rw [hfilling]; rfl
      obtain ⟨s, hs, htypes⟩ := hrefers reference hreads
      obtain ⟨v, hv⟩ := valueAt?_isSome (Plan.mem_readColumns_iff.2 (.inr ⟨b, hb, hreads⟩))
        hrow.length_eq.symm
      rw [hfilling] at hconstant
      simp only [Binding.resolve, hfilling, hv]
      -- Where the column is null the fallback takes its place, and that is the constant.
      by_cases hnull : v.isNull
      · rw [if_pos hnull]
        exact hconstant
      · rw [if_neg hnull]
        have hdelivers := List.forall₂_zip hrow (mem_zip_of_valueAt? hv)
        exact adapt_isOk_of_delivers hdelivers hs ht htypes

/-- Every value that a sound plan writes for a row that the source delivers can be adapted. -/
theorem adapt_isOk_of_mem (h : plan.Sound source target)
    (hfinite : ∀ b ∈ plan.bindings, b.filling.constant.Finite)
    (hrow : List.Forall₂ (Delivers source) plan.readColumns row)
    (hmem : (name, v) ∈ plan.writeColumns.zip (plan.project plan.readColumns row)) :
    (v.adapt (target.kindOf name) name).isOk := by
  rcases (Plan.mem_zip_project_iff hrow.length_eq.symm h.pairs).1 hmem with
    hcopied | ⟨b, hb, rfl, rfl⟩
  · obtain ⟨extra, hread⟩ := plan.exists_readColumns_eq
    obtain ⟨copied, hpair, hvalue⟩ := Plan.mem_zip_take extra h.pairs hcopied
    rw [hread] at hvalue
    obtain ⟨s, hs⟩ := Option.ne_none_iff_exists'.1 (h.has_source _ (List.of_mem_zip hpair).1)
    obtain ⟨t, ht⟩ := Option.ne_none_iff_exists'.1
      (h.has_target _ (List.mem_append_left _ (List.of_mem_zip hpair).2))
    exact adapt_isOk_of_delivers (List.forall₂_zip hrow hvalue) hs ht
      (h.reconciles _ hpair s t hs ht)
  · exact adapt_isOk_of_binding h hb (hfinite b hb) hrow

theorem exists_adaptRow (h : plan.Sound source target)
    (hfinite : ∀ b ∈ plan.bindings, b.filling.constant.Finite)
    (hrow : List.Forall₂ (Delivers source) plan.readColumns row) :
    ∃ out, adaptRow plan plan.readColumns (plan.writeColumns.map target.kindOf) plan.writeColumns
      row = .ok out := by
  simp only [adaptRow, adaptValues_eq_ok_iff]
  refine exists_forall₂ ?_
  rintro ⟨name, v⟩ hmem
  exact isOk_iff.1 (adapt_isOk_of_mem h hfinite hrow hmem)

theorem length_of_adaptRow (h : plan.Sound source target)
    (hrow : row.length = plan.readColumns.length)
    (hout : adaptRow plan plan.readColumns (plan.writeColumns.map target.kindOf) plan.writeColumns
      row = .ok out) : out.length = plan.writeColumns.length := by
  rw [adaptRow, adaptValues_eq_ok_iff] at hout
  rw [← hout.length_eq, List.length_zip, Plan.length_project hrow h.pairs, Nat.min_self]

/-- Rows that the source delivers are all adapted, and have then one value for each column. -/
theorem Job.exists_adapt_of_delivers {batchSize : Nat} {job : Job} {rows : List Row}
    (h : plan.Sound source target) (hfinite : ∀ b ∈ plan.bindings, b.filling.constant.Finite)
    (hjob : Job.ofPlan plan source target batchSize = .ok job)
    (hrows : ∀ row ∈ rows, List.Forall₂ (Delivers source) plan.readColumns row) :
    ∃ out, job.adapt rows = .ok out ∧ out.length = rows.length ∧
      ∀ w ∈ out, w.length = plan.writeColumns.length := by
  obtain ⟨columns, -, rfl⟩ := Job.ofPlan_eq_ok_iff.1 hjob
  obtain ⟨out, hout⟩ :=
    exists_forall₂ (fun row hrow => exists_adaptRow h hfinite (hrows row hrow))
  refine ⟨out, Job.adapt_eq_ok_iff.2 hout, hout.length_eq.symm, fun w hw => ?_⟩
  obtain ⟨row, hrow, hadapt⟩ := exists_mem_of_forall₂ hout hw
  exact length_of_adaptRow h (hrows row hrow).length_eq.symm hadapt

end

/-- The rows of a plan that was made of an entry and passed its check: whatever the source delivers,
    every row is adapted, has one value for each column that is written, and can be written as a
    statement if the names in that are usable. -/
theorem checked_rows_can_be_written (entry : Entry) (source target : Table) (batchSize : Nat)
    (rows : List Row) (hcheck : (Plan.ofEntry entry source target).check source target = .ok ())
    (hrows : ∀ row ∈ rows,
      List.Forall₂ (Delivers source) (Plan.ofEntry entry source target).readColumns row) :
    ∃ job out, Job.ofPlan (Plan.ofEntry entry source target) source target batchSize = .ok job ∧
      job.adapt rows = .ok out ∧ out.length = rows.length ∧
      job.writeTarget.columns = (Plan.ofEntry entry source target).writeColumns ∧
      (∀ w ∈ out, w.length = (Plan.ofEntry entry source target).writeColumns.length) ∧
      ((∀ name ∈ Sql.names job.writeTarget, Identifier.Usable name) →
        ∃ sql, Sql.insert job.writeTarget out = .ok sql) := by
  have hsound := Plan.check_eq_ok_iff.1 hcheck
  have hfinite := Plan.ofEntry_finite entry source target
  obtain ⟨job, hjob⟩ : ∃ job,
      Job.ofPlan (Plan.ofEntry entry source target) source target batchSize = .ok job :=
    Job.exists_ofPlan_iff.2 hsound.has_read
  obtain ⟨out, hout, hlength, hlengths⟩ := Job.exists_adapt_of_delivers hsound hfinite hjob hrows
  obtain ⟨columns, -, rfl⟩ := Job.ofPlan_eq_ok_iff.1 hjob
  exact ⟨_, out, hjob, hout, hlength, rfl, hlengths,
    fun hnames => Sql.exists_insert hlengths hnames⟩

theorem sample_rows_can_be_written :
    ∃ job out sql, Job.ofPlan Sample.plan Sample.people Sample.guests 100 = .ok job ∧
      job.adapt Sample.rows = .ok out ∧ Sql.insert job.writeTarget out = .ok sql := by
  have hrows : ∀ row ∈ Sample.rows,
      List.Forall₂ (Delivers Sample.people) Sample.plan.readColumns row := by
    have hint (n : Int) : Delivers Sample.people "id" (.int n) := fun c hc => by cases hc; rfl
    have htext (name : String) (hname : name = "name" ∨ name = "town") (s : String) :
        Delivers Sample.people name (.text s) := by
      rcases hname with rfl | rfl <;> exact fun c hc => by cases hc; rfl
    have hnull (name : String) : Delivers Sample.people name .null := fun c _ => by
      cases Postgres.Decoder.ofType c.dataType <;> rfl
    intro row hrow
    rcases List.mem_pair.1 hrow with rfl | rfl
    · exact .cons (hint 1) (.cons (htext _ (.inl rfl) _) (.cons (hnull _) .nil))
    · exact .cons (hint 2) (.cons (hnull _) (.cons (htext _ (.inr rfl) _) .nil))
  obtain ⟨job, out, hjob, hout, -, -, -, hinsert⟩ := checked_rows_can_be_written Sample.entry
    Sample.people Sample.guests 100 Sample.rows rfl hrows
  obtain ⟨columns, -, rfl⟩ := Job.ofPlan_eq_ok_iff.1 hjob
  have hnames : ∀ name ∈ Sql.names ⟨"public", "people", Sample.plan.writeColumns,
      Sample.plan.upsertKey⟩, Identifier.Usable name := by decide
  obtain ⟨sql, hsql⟩ := hinsert hnames
  exact ⟨_, out, sql, hjob, hout, hsql⟩

end Transfer

end Ferry
