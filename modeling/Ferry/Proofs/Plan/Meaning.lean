import Ferry.Proofs.Plan.Check
import Mathlib.Data.List.Zip

set_option autoImplicit false

/-! # What a plan means

`Plan.Gives` says which value a plan gives to a column that it writes, for a source row taken as the
value under each name and without a thought for places. `Plan.project` finds the values by their
places in lists; `Plan.gives_iff` is that both say the same. -/

namespace Ferry

/-! ## Values by place and by name -/

/-- The value that a full row of a table has under a name; null if there is none. -/
def Table.valueIn (t : Table) (row : Row) (name : String) : Value :=
  (valueAt? name t.columnNames row).getD .null

section
variable {name : String} {names : List String} {row : Row} {v v' : Value}

theorem mem_zip_of_valueAt? (h : valueAt? name names row = some v) : (name, v) ∈ names.zip row := by
  induction names generalizing row with
  | nil => simp [valueAt?] at h
  | cons c cs ih =>
      cases row with
      | nil => simp [valueAt?] at h
      | cons x xs =>
          unfold valueAt? at h
          rw [List.zip_cons_cons, List.mem_cons]
          by_cases hc : c = name
          · rw [if_pos hc] at h
            cases h
            exact .inl (by rw [hc])
          · rw [if_neg hc] at h
            exact .inr (ih h)

theorem valueAt?_map {value : String → Value} (h : name ∈ names) :
    valueAt? name names (names.map value) = some (value name) := by
  induction names with
  | nil => simp at h
  | cons c cs ih =>
      rw [List.map_cons, valueAt?]
      by_cases hc : c = name
      · rw [if_pos hc, hc]
      · rw [if_neg hc]
        exact ih ((List.mem_cons.1 h).resolve_left (fun heq => hc heq.symm))

theorem valueAt?_isSome (hname : name ∈ names) (hlength : row.length = names.length) :
    ∃ v, valueAt? name names row = some v := by
  induction names generalizing row with
  | nil => simp at hname
  | cons c cs ih =>
      cases row with
      | nil => simp at hlength
      | cons x xs =>
          rw [valueAt?]
          by_cases hc : c = name
          · exact ⟨x, if_pos hc⟩
          · rw [if_neg hc]
            refine ih ((List.mem_cons.1 hname).resolve_left (fun heq => hc heq.symm)) ?_
            simpa using hlength

/-- A name that occurs once has one value. -/
theorem eq_of_mem_zip (hnames : names.Nodup) (h : (name, v) ∈ names.zip row)
    (h' : (name, v') ∈ names.zip row) : v = v' := by
  induction names generalizing row with
  | nil => simp at h
  | cons c cs ih =>
      cases row with
      | nil => simp at h
      | cons x xs =>
          obtain ⟨hc, hrest⟩ := List.nodup_cons.1 hnames
          rw [List.zip_cons_cons, List.mem_cons, Prod.mk.injEq] at h h'
          rcases h with ⟨hname, hv⟩ | h
          · rcases h' with ⟨-, hv'⟩ | h'
            · rw [hv, hv']
            · exact absurd (hname ▸ (List.of_mem_zip h').1) hc
          · rcases h' with ⟨hname, -⟩ | h'
            · exact absurd (hname ▸ (List.of_mem_zip h).1) hc
            · exact ih hrest h h'

end

/-! ## Plans of entries -/

namespace Plan

section
variable {entry : Entry} {source target : Table}

/-- The constants of a plan that was made of an entry are literals of the entry, or null. -/
theorem constant_of_mem_ofEntry {b : Binding} (hb : b ∈ (ofEntry entry source target).bindings) :
    b.filling.constant = .null ∨ ∃ d, b.filling.constant = Value.ofLiteral d := by
  unfold ofEntry at hb
  by_cases hauthored : entry.isAuthored
  · simp only [if_pos hauthored] at hb
    obtain ⟨⟨name, constant⟩, -, rfl⟩ := List.mem_map.1 hb
    cases constant with
    | value d => exact .inr ⟨d, rfl⟩
    | column reference fallback =>
        cases fallback with
        | none => exact .inl rfl
        | some d => exact .inr ⟨d, rfl⟩
  · simp only [if_neg hauthored] at hb
    cases hb

/-- Every constant of an entry has its binding. -/
theorem mem_bindings_ofEntry {constant : String × Constant} (source target : Table)
    (h : constant ∈ entry.constants) :
    bindingOf constant ∈ (ofEntry entry source target).bindings := by
  have hauthored : entry.isAuthored := by
    have hsome : ¬ entry.constants.isEmpty := fun hempty => by
      rw [List.isEmpty_iff.1 hempty] at h
      cases h
    simp [Entry.isAuthored, hsome]
  rw [ofEntry, if_pos hauthored]
  exact List.mem_map_of_mem h

end

/-! ## What is read -/

variable {p : Plan} {names more : List String} {name other : String}

theorem prefix_addName : names <+: addName names name := by
  unfold addName
  split
  · exact List.prefix_rfl
  · exact List.prefix_append names [name]

theorem mem_addName_iff : other ∈ addName names name ↔ other ∈ names ∨ other = name := by
  unfold addName
  by_cases hname : names.contains name
  · rw [if_pos hname]
    refine ⟨.inl, ?_⟩
    rintro (h | rfl)
    · exact h
    · exact List.contains_iff_mem.1 hname
  · rw [if_neg hname, List.mem_append, List.mem_singleton]

theorem prefix_foldl_addName : names <+: more.foldl addName names := by
  induction more generalizing names with
  | nil => exact List.prefix_rfl
  | cons n rest ih => exact prefix_addName.trans ih

theorem mem_foldl_addName_iff : name ∈ more.foldl addName names ↔ name ∈ names ∨ name ∈ more := by
  induction more generalizing names with
  | nil => simp
  | cons n rest ih => rw [List.foldl_cons, ih, mem_addName_iff, or_assoc, List.mem_cons]

/-- The copied columns are read first. -/
theorem exists_readColumns_eq (p : Plan) : ∃ extra, p.sourceColumns ++ extra = p.readColumns :=
  prefix_foldl_addName

theorem mem_readColumns_iff :
    name ∈ p.readColumns ↔
      name ∈ p.sourceColumns ∨ ∃ b ∈ p.bindings, b.filling.reads? = some name := by
  rw [readColumns, mem_foldl_addName_iff, List.mem_filterMap]

/-- The source of a sound plan has every column that is read. -/
theorem Sound.has_read {source target : Table} (h : p.Sound source target) :
    ∀ name ∈ p.readColumns, source.column? name ≠ none := by
  intro name hname
  rcases mem_readColumns_iff.1 hname with hcopied | ⟨b, hb, hreads⟩
  · exact h.has_source name hcopied
  · have hwritten : b.target ∈ p.writeColumns :=
      List.mem_append_right _ (List.mem_map_of_mem hb)
    obtain ⟨t, ht⟩ := Option.ne_none_iff_exists'.1 (h.has_target _ hwritten)
    obtain ⟨s, hs, -⟩ := (h.fills b hb t ht).2 name hreads
    rw [hs]
    exact Option.some_ne_none s

/-! ## The values of a row -/

/-- The value that a plan gives to a column that it writes, given the value under each name. -/
inductive Gives (p : Plan) (value : String → Value) : String → Value → Prop
  | copied {source target} (hpair : (source, target) ∈ p.sourceColumns.zip p.targetColumns) :
      Gives p value target (value source)
  | literal {b v} (hb : b ∈ p.bindings) (hfilling : b.filling = .literal v) :
      Gives p value b.target v
  | referred {b name fallback} (hb : b ∈ p.bindings) (hfilling : b.filling = .column name fallback)
      (hnull : (value name).isNull = false) : Gives p value b.target (value name)
  | fallback {b name v} (hb : b ∈ p.bindings) (hfilling : b.filling = .column name v)
      (hnull : (value name).isNull = true) : Gives p value b.target v

section
variable {value : String → Value} {row : Row} {target : String} {v : Value}

/-- The value of a copied column stands at one place with its name, on both sides. -/
theorem mem_zip_take {sources targets : List String} (extra : List String)
    (hpairs : sources.length = targets.length)
    (h : (target, v) ∈ targets.zip (row.take sources.length)) :
    ∃ source, (source, target) ∈ sources.zip targets ∧
      (source, v) ∈ (sources ++ extra).zip row := by
  induction sources generalizing targets row with
  | nil => simp at h
  | cons s rest ih =>
      cases targets with
      | nil => simp at h
      | cons t ts =>
          cases row with
          | nil => simp at h
          | cons x xs =>
              rw [List.length_cons, List.take_succ_cons, List.zip_cons_cons, List.mem_cons] at h
              rcases h with heq | h
              · cases heq
                exact ⟨s, by simp, by simp⟩
              · obtain ⟨source, hpair, hvalue⟩ := ih (by simpa using hpairs) h
                exact ⟨source, List.mem_cons_of_mem _ hpair, List.mem_cons_of_mem _ hvalue⟩

theorem length_project (hrow : row.length = p.readColumns.length)
    (hpairs : p.sourceColumns.length = p.targetColumns.length) :
    (p.project p.readColumns row).length = p.writeColumns.length := by
  obtain ⟨extra, hread⟩ := p.exists_readColumns_eq
  have hlength := congrArg List.length hread
  rw [List.length_append] at hlength
  simp only [project, writeColumns, List.length_append, List.length_take, List.length_map]
  omega

/-- Where the values of a row to write come from: a copied column, or a binding. -/
theorem mem_zip_project_iff (hrow : row.length = p.readColumns.length)
    (hpairs : p.sourceColumns.length = p.targetColumns.length) :
    (target, v) ∈ p.writeColumns.zip (p.project p.readColumns row) ↔
      (target, v) ∈ p.targetColumns.zip (row.take p.sourceColumns.length) ∨
        ∃ b ∈ p.bindings, b.target = target ∧ b.resolve p.readColumns row = v := by
  obtain ⟨extra, hread⟩ := p.exists_readColumns_eq
  have hlength := congrArg List.length hread
  rw [List.length_append] at hlength
  have htake : p.targetColumns.length = (row.take p.sourceColumns.length).length := by
    rw [List.length_take]
    omega
  rw [writeColumns, project, List.zip_append htake, List.mem_append, List.zip_map', List.mem_map]
  simp

theorem resolve_eq {b : Binding} {name : String} {fallback : Value} (hb : b ∈ p.bindings)
    (hfilling : b.filling = .column name fallback) :
    b.resolve p.readColumns (p.readColumns.map value)
      = if (value name).isNull then fallback else value name := by
  have hread : name ∈ p.readColumns :=
    mem_readColumns_iff.2 (.inr ⟨b, hb, by rw [hfilling]; rfl⟩)
  simp only [Binding.resolve, hfilling, valueAt?_map hread]

theorem gives_resolve {b : Binding} (hb : b ∈ p.bindings) :
    p.Gives value b.target (b.resolve p.readColumns (p.readColumns.map value)) := by
  cases hfilling : b.filling with
  | literal v =>
      rw [Binding.resolve, hfilling]
      exact .literal hb hfilling
  | column name fallback =>
      rw [resolve_eq hb hfilling]
      by_cases hnull : (value name).isNull
      · rw [if_pos hnull]
        exact .fallback hb hfilling hnull
      · rw [if_neg hnull]
        exact .referred hb hfilling (Bool.not_eq_true _ ▸ hnull)

/-- By name and by place a plan gives the same values. -/
theorem gives_iff (hpairs : p.sourceColumns.length = p.targetColumns.length) :
    p.Gives value target v ↔
      (target, v) ∈ p.writeColumns.zip (p.project p.readColumns (p.readColumns.map value)) := by
  have htake : (p.readColumns.map value).take p.sourceColumns.length
      = p.sourceColumns.map value := by
    obtain ⟨extra, hread⟩ := p.exists_readColumns_eq
    rw [← hread, List.map_append, ← List.length_map value, List.take_left]
  have hswap (source : String) : (target, source) ∈ p.targetColumns.zip p.sourceColumns ↔
      (source, target) ∈ p.sourceColumns.zip p.targetColumns := by
    rw [← List.zip_swap p.sourceColumns p.targetColumns, List.mem_map]
    constructor
    · rintro ⟨⟨first, second⟩, hmem, heq⟩
      cases heq
      exact hmem
    · exact fun hmem => ⟨_, hmem, rfl⟩
  have hcopied : (target, v) ∈ p.targetColumns.zip (p.sourceColumns.map value) ↔
      ∃ source, (source, target) ∈ p.sourceColumns.zip p.targetColumns ∧ value source = v := by
    rw [List.zip_map_right]
    simp [hswap]
  rw [mem_zip_project_iff (List.length_map _) hpairs, htake, hcopied]
  constructor
  · intro h
    -- A value that is given by name is found again at the place of its column.
    cases h with
    | copied hpair => exact .inl ⟨_, hpair, rfl⟩
    | literal hb hfilling => exact .inr ⟨_, hb, rfl, by rw [Binding.resolve, hfilling]⟩
    | referred hb hfilling hnull =>
        exact .inr ⟨_, hb, rfl, by rw [resolve_eq hb hfilling, hnull]; rfl⟩
    | fallback hb hfilling hnull =>
        exact .inr ⟨_, hb, rfl, by rw [resolve_eq hb hfilling, hnull]; rfl⟩
  · rintro (⟨source, hpair, rfl⟩ | ⟨b, hb, rfl, rfl⟩)
    · exact .copied hpair
    · exact gives_resolve hb

end

end Plan

end Ferry
