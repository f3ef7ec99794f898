import Ferry.Proofs.Classification
import Ferry.Proofs.Run.DryRun
import Ferry.Proofs.Run.Repetition

set_option autoImplicit false

/-! # Only cleared tables are touched

Before a table is read, emptied or written it has to pass every gate of a run: it stands in the
order, both sides have it, its columns are mapped or are the same on both sides, its plan passes the
check, the run is not dry and no stop was requested. `Cleared` and `Reached` list the gates, and
`touches_cleared_tables` is that no call goes past them. It is read off the turns: a turn that makes
a call at all is one that was decided to be carried out. -/

namespace Ferry

namespace Step

/-- What a cursor is to read that a call opens. -/
def request? : Step → Option ReadRequest
  | openCursor request _ => some request
  | _ => none

/-- The table that a call opens a cursor on, empties or writes to. -/
def touches? (x : Step) : Option String := x.changes? <|> x.request?.map ReadRequest.table

/-- A call names only columns that the two tables have. -/
def Fits (source target : Table) : Step → Prop
  | openCursor request _ =>
    request.schema = source.schema ∧ ∀ c ∈ request.columns, c ∈ source.columns
  | truncate schema _ _ => schema = target.schema
  | write w _ _ =>
    w.schema = target.schema ∧ (∀ name ∈ w.columns, name ∈ target.columnNames) ∧
      ∀ key, w.conflictKey = some key → ∀ name ∈ key, name ∈ target.columnNames
  | _ => True

end Step

namespace Transfer

variable {σ : Type} {b : Backend σ} {job : Job} {c : b.Cursor} {k : b.Session} {s s' : σ}
  {steps : List Step} {r : Copied b} {t : Tally} {outcome : Except MigrationError Unit}

theorem Fills.requests (h : Fills b job c k s steps r) : steps.filterMap Step.request? = [] := by
  refine List.filterMap_eq_nil_iff.2 (fun x hx => ?_)
  have hkind := h.ne_kind (.inl (by decide : stage .openCursor < 2)) x hx
  cases x with
  | openCursor => exact absurd rfl hkind
  | _ => rfl

/-- Moving a table opens one cursor, for the request of the job. -/
theorem Moves.requests (h : Moves b job s steps (outcome, t, s')) :
    steps.filterMap Step.request? = [job.request] := by
  cases h with
  | notOpened | notBegun => rfl
  | filled _ _ hfill | failed _ _ hfill =>
      rw [List.filterMap_append, List.filterMap_append, hfill.requests]
      rfl

end Transfer

namespace Run

variable {σ : Type} {b : Backend σ} {config : Config} {dryRun : Bool} {sources targets : Catalog}
  {setting : Setting} {entry : Entry} {entries : List Entry} {source target : Table} {s : σ}
  {t : Turn σ} {x : Step}

/-! ## The gates -/

/-- What a table has to pass before it is touched, apart from what the other tables do. -/
structure Cleared (dryRun : Bool) (sources targets : Catalog) (entry : Entry)
    (source target : Table) : Prop where
  in_source : sources.get? entry.table = some source
  in_target : targets.get? entry.table = some target
  mapped : entry.isAuthored ∨ source.Matches target
  checked : (Plan.ofEntry entry source target).check source target = .ok ()
  real : dryRun = false

/-- A run comes to an entry: no stop is requested before it or any entry in front of it. -/
def Reached (b : Backend σ) (setting : Setting) (entries : List Entry) (s : σ) (entry : Entry) :
    Prop :=
  ∃ before after, entries = before ++ entry :: after ∧
    ∀ front, front <+: before → b.stopRequested (runEntries b setting front s).2 = false

theorem Reached.mem (h : Reached b setting entries s entry) : entry ∈ entries := by
  obtain ⟨before, after, rfl, -⟩ := h
  exact List.mem_append_right _ List.mem_cons_self

theorem cleared_of_carryOut {plan : Plan}
    (h : decide (settingOf config dryRun sources targets) entry = .carryOut plan source target) :
    Cleared dryRun sources targets entry source target := by
  have hdecides := decide_decides (settingOf config dryRun sources targets) entry
  rw [h] at hdecides
  cases hdecides with
  | carried hsource htarget hmapped hcheck hreal =>
      refine ⟨hsource, htarget, ?_, hcheck, hreal⟩
      by_cases hauthored : entry.isAuthored
      · exact .inl hauthored
      · -- Without a mapping the name was found among the identical tables.
        have hfound : (classify sources targets).isIdentical entry.table := by
          simpa [hauthored, settingOf] using hmapped
        obtain ⟨s, t, hs, ht, hmatch⟩ := mem_identical_iff.1 (isIdentical_iff.1 hfound)
        cases hs.symm.trans hsource
        cases ht.symm.trans htarget
        exact .inr hmatch

theorem reached_of_mem (h : t ∈ turns b setting entries s) :
    Reached b setting entries s t.entry := by
  induction entries generalizing s with
  | nil => cases h
  | cons entry rest ih =>
      by_cases hstop : b.stopRequested s
      · simp [turns, hstop] at h
      · rw [Bool.not_eq_true] at hstop
        simp only [turns, hstop, Bool.false_eq_true, if_false, List.mem_cons] at h
        rcases h with rfl | h
        · refine ⟨[], rest, rfl, fun front hfront => ?_⟩
          rw [List.prefix_nil.1 hfront]
          exact hstop
        · obtain ⟨before, after, hentries, hreached⟩ := ih h
          refine ⟨entry :: before, after, by rw [hentries]; rfl, fun front hfront => ?_⟩
          cases front with
          | nil => exact hstop
          | cons first front =>
              obtain ⟨rfl, hrest⟩ := List.cons_prefix_cons.1 hfront
              simpa [runEntries, hstop, Turn.of] using hreached front hrest

/-! ## The calls of a turn -/

/-- The calls for an entry that is carried out touch its table, and columns that the table has. -/
theorem Carried.fits {plan : Plan} {batchSize : Nat} {job : Transfer.Job} {steps : List Step}
    {s' : σ} {tally : Transfer.Tally} {outcome : Except MigrationError Unit}
    (h : Carried setting entry plan source target)
    (hjob : Transfer.Job.ofPlan plan source target batchSize = .ok job)
    (hmoves : Transfer.Moves b job s steps (outcome, tally, s')) (hx : x ∈ steps) :
    (∀ table, x.touches? = some table → table = entry.table) ∧ x.Fits source target := by
  obtain ⟨hread, hwritten⟩ := h.job_tables hjob
  obtain ⟨columns, hcolumns, rfl⟩ := Transfer.Job.ofPlan_eq_ok_iff.1 hjob
  have hconcerns := hmoves.concerns x hx
  have hhas : ∀ name ∈ plan.writeColumns, name ∈ target.columnNames := fun name hname =>
    Table.mem_columnNames_iff.2 (h.sound.has_target name hname)
  cases x with
  | openCursor request opened =>
      have hrequest : request ∈ steps.filterMap Step.request? :=
        List.mem_filterMap.2 ⟨_, hx, rfl⟩
      rw [hmoves.requests, List.mem_singleton] at hrequest
      subst hrequest
      refine ⟨fun table htable => ?_, rfl, fun c hc => ?_⟩
      · exact (Option.some.inj htable).symm.trans hread
      · have hfound : some c ∈ plan.readColumns.map source.column? :=
          hcolumns ▸ List.mem_map_of_mem hc
        obtain ⟨name, -, hname⟩ := List.mem_map.1 hfound
        exact List.mem_of_find?_eq_some hname
  | truncate schema emptied o =>
      obtain ⟨hschema, htable⟩ := hconcerns
      exact ⟨fun table h => (Option.some.inj h).symm.trans (htable.trans hwritten), hschema⟩
  | write w rows o =>
      cases hconcerns
      refine ⟨fun table htable => (Option.some.inj htable).symm.trans hwritten, rfl, hhas, ?_⟩
      intro key hkey name hname
      -- There is a key only when rows are merged, and then all of it is written.
      cases hmode : plan.mode with
      | replace => simp [Plan.upsertKey, hmode] at hkey
      | merge =>
          simp only [Plan.upsertKey, hmode, Option.some.injEq] at hkey
          subst hkey
          exact hhas name ((h.sound.has_key hmode).2 name hname)
  | _ =>
      refine ⟨fun table htable => ?_, trivial⟩
      cases htable

/-- A turn that makes a call is one of an entry that was cleared. -/
theorem Turn.Goes.cleared (h : t.Goes b (settingOf config dryRun sources targets))
    (hx : x ∈ t.steps) :
    ∃ source target, Cleared dryRun sources targets t.entry source target ∧
      (∀ table, x.touches? = some table → table = t.entry.table) ∧ x.Fits source target := by
  cases h with
  | settled => cases hx
  | moved hdecide hjob hmoves =>
      exact ⟨_, _, cleared_of_carryOut hdecide, (carried_of_decide hdecide).fits hjob hmoves hx⟩

/-- A turn opens a cursor on its own table, or none at all. -/
theorem Turn.Goes.requests (h : t.Goes b setting) :
    ((t.steps.filterMap Step.request?).map ReadRequest.table).Sublist [t.entry.table] := by
  cases h with
  | settled => exact List.nil_sublist _
  | moved hdecide hjob hmoves =>
      rw [hmoves.requests, List.map_singleton, ((carried_of_decide hdecide).job_tables hjob).1]

theorem requests_turns (b : Backend σ) (setting : Setting) (entries : List Entry) (s : σ) :
    ((((turns b setting entries s).flatMap Turn.steps).filterMap Step.request?).map
      ReadRequest.table).Sublist (entries.map Entry.table) := by
  induction entries generalizing s with
  | nil => exact List.nil_sublist _
  | cons entry rest ih =>
      by_cases hstop : b.stopRequested s
      · simp [turns, hstop]
      · simp only [turns, hstop, Bool.false_eq_true, if_false, List.flatMap_cons,
          List.filterMap_append, List.map_append]
        exact (Turn.of_goes b setting entry s).requests.append (ih _)

/-! ## The order of a run -/

/-- The tables of a run: the configured ones that are not excluded, in the order of the
    configuration, and behind them, if they are wanted, all others that are not excluded and have
    the same columns on both sides, ascending by the bytes of their names. -/
structure ListsTables (settings : Settings) (sources targets : Catalog) (tables : List String) :
    Prop where
  once : tables.Nodup
  parts : ∃ added,
    tables = (settings.tables.map Entry.table).filter (· ∉ settings.excludeTables) ++ added ∧
    (added.map Text.bytes).Pairwise (· < ·) ∧
    ∀ n, n ∈ added ↔ settings.includeIdentical = true ∧ n ∉ settings.tables.map Entry.table ∧
      n ∉ settings.excludeTables ∧
      ∃ s t, sources.get? n = some s ∧ targets.get? n = some t ∧ s.Matches t

theorem listsTables_entriesOf (hconfig : (config.migration.tables.map Entry.table).Nodup) :
    ListsTables config.migration sources targets
      ((entriesOf config sources targets).map Entry.table) := by
  refine ⟨entriesOf_once hconfig, ?_⟩
  have hlisted : (config.migration.tables.filter
        (fun e => !config.migration.excludeTables.contains e.table)).map Entry.table
      = (config.migration.tables.map Entry.table).filter (· ∉ config.migration.excludeTables) := by
    rw [List.filter_map]
    simp [Function.comp_def]
  rw [entriesOf, order, List.map_append, hlisted]
  refine ⟨_, rfl, ?_⟩
  cases config.migration.includeIdentical with
  | false => simp
  | true =>
      simp only [if_true, List.map_map, Function.comp_def, Entry.straightCopy, List.map_id']
      refine ⟨?_, fun n => ?_⟩
      · exact List.pairwise_map.2
          ((identical_pairwise.filter _).imp Text.bytes_lt_iff.2)
      · rw [List.mem_filter, mem_identical_iff, and_comm]
        simp only [Bool.and_eq_true, Bool.not_eq_true', List.contains_eq_mem,
          decide_eq_false_iff_not, true_and, and_assoc]

theorem map_table_runEntries (b : Backend σ) (setting : Setting) (entries : List Entry) (s : σ) :
    (runEntries b setting entries s).1.2.map TableReport.table = entries.map Entry.table := by
  induction entries generalizing s with
  | nil => rfl
  | cons entry rest ih =>
      have htable : (runEntry b setting entry s).1.table = entry.table :=
        (Turn.of_goes b setting entry s).report_table
      by_cases hstop : b.stopRequested s
      · simp [runEntries, hstop, notStarted, TableReport.skipped, Function.comp_def]
      · simp [runEntries, hstop, htable, ih]

/-! ## Whole runs -/

theorem touches?_of_catalogs (b : Backend σ) (config : Config) (s : σ) :
    ∀ x ∈ catalogSteps b config s, x.touches? = none ∧ x.request? = none := by
  intro x hx
  have hkind := (catalogSteps_kind b config s).subset (List.mem_map_of_mem hx)
  cases x with
  | sourceCatalog | targetCatalog => exact ⟨rfl, rfl⟩
  | _ => simp [Step.kind] at hkind

/-- A run lists each of its tables once: the configured ones that are not excluded, and behind them
    the identical ones if these are wanted. It opens at most one cursor for each of them, in their
    order. No call opens a cursor on a table, empties it or writes to it unless the table is listed
    and was cleared, and the run came to it without being stopped; and no call names a column that
    the table does not have. -/
theorem touches_cleared_tables (b : Backend σ) (config : Config) (dryRun : Bool) (stamp : RunStamp)
    (hash : String) (s : σ) (hconfig : (config.migration.tables.map Entry.table).Nodup) :
    (∀ e s', readCatalogs b config s = (.error e, s') →
      migrate b config dryRun stamp hash s = (.error e, s') ∧
      ∀ x ∈ trace b config dryRun s, x.touches? = none) ∧
    ∀ sources targets ready, readCatalogs b config s = (.ok (sources, targets), ready) →
      ∃ result,
        (migrate b config dryRun stamp hash s).1 = .ok result ∧
        ListsTables config.migration sources targets (result.tables.map TableReport.table) ∧
        (((trace b config dryRun s).filterMap Step.request?).map ReadRequest.table).Sublist
          (result.tables.map TableReport.table) ∧
        ∀ x ∈ trace b config dryRun s, ∀ table, x.touches? = some table →
          table ∈ result.tables.map TableReport.table ∧
          ∃ entry source target, entry.table = table ∧
            Cleared dryRun sources targets entry source target ∧
            Reached b (settingOf config dryRun sources targets) (entriesOf config sources targets)
              ready entry ∧
            x.Fits source target := by
  have hcatalogs := touches?_of_catalogs b config s
  rw [trace_eq]
  refine ⟨fun e s' hread => ⟨migrate_of_error hread, ?_⟩,
    fun sources targets ready hread => ?_⟩
  · simp only [turnsOf, hread, List.flatMap_nil, List.append_nil]
    exact fun x hx => (hcatalogs x hx).1
  rw [turnsOf_of_ok hread]
  have hreport : (migrate b config dryRun stamp hash s).1 = _ :=
    congrArg Prod.fst (migrate_of_ok hread)
  have htables := map_table_runEntries b (settingOf config dryRun sources targets)
    (entriesOf config sources targets) ready
  refine ⟨_, hreport, ?_, ?_, fun x hx table htable => ?_⟩
  · exact htables ▸ listsTables_entriesOf hconfig
  · rw [htables, List.filterMap_append,
      List.filterMap_eq_nil_iff.2 (fun x hx => (hcatalogs x hx).2), List.nil_append]
    exact requests_turns ..
  · rcases List.mem_append.1 hx with hx | hx
    · rw [(hcatalogs x hx).1] at htable
      cases htable
    · obtain ⟨t, ht, hxt⟩ := List.mem_flatMap.1 hx
      obtain ⟨source, target, hcleared, honly, hfits⟩ := (goes_of_mem ht).cleared hxt
      have hreached := reached_of_mem ht
      refine ⟨?_, t.entry, source, target, (honly table htable).symm, hcleared, hreached, hfits⟩
      rw [htables, honly table htable]
      exact List.mem_map_of_mem hreached.mem

/-- One table is configured, and those that are the same on both sides are wanted too. -/
def Sample.withIdentical : Config :=
  { (default : Config) with
    migration := { Settings.default with
      includeIdentical := true, excludeTables := ["ghosts"], tables := [Ferry.Sample.entry] } }

theorem sample_touches_cleared_tables :
    ∃ result,
      (migrate Memory.backend Sample.withIdentical false default "" Sample.state).1 = .ok result ∧
      result.tables.map TableReport.table = ["people", "towns"] ∧
      (∃ x ∈ trace Memory.backend Sample.withIdentical false Sample.state,
        x.touches? = some "towns") ∧
      ∀ x ∈ trace Memory.backend Sample.withIdentical false Sample.state,
        x.touches? = some "towns" → ∃ entry source target, entry.table = "towns" ∧
          Cleared false Sample.state.source Sample.state.target entry source target ∧
          x.Fits source target := by
  obtain ⟨-, hruns⟩ := touches_cleared_tables Memory.backend Sample.withIdentical false default ""
    Sample.state (List.nodup_singleton _)
  obtain ⟨result, hresult, -, -, htouches⟩ := hruns _ _ _ rfl
  have htables : (migrate Memory.backend Sample.withIdentical false default ""
      Sample.state).1.toOption.map (fun r => r.tables.map TableReport.table)
      = some ["people", "towns"] := by decide +kernel
  have htouched : (trace Memory.backend Sample.withIdentical false Sample.state).any
      (fun x => x.touches? == some "towns") = true := by decide +kernel
  rw [hresult] at htables
  refine ⟨result, hresult, Option.some.inj htables, ?_, fun x hx htable => ?_⟩
  · simpa using htouched
  · obtain ⟨-, entry, source, target, hentry, hcleared, -, hfits⟩ := htouches x hx _ htable
    exact ⟨entry, source, target, hentry, hcleared, hfits⟩

end Run

end Ferry
