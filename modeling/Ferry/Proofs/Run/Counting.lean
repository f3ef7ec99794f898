import Ferry.Proofs.Run.Repetition

set_option autoImplicit false

/-! # Counting rows after a run

A count check looks at the tables of a run once more, on its own: it reads the catalogs again, works
the order out again and counts the rows on both sides. After a run on the databases in memory,
whatever failed in it, the check finds what the run has reported. Every entry of a run had its turn
or was left out (`forall₂_runEntries`), and by that its table holds the rows of the source, or what
it held before. -/

namespace Ferry

/-! ## The rows of a table -/

namespace Memory

variable {s s' : State} {table : String}

/-- The rows of a source table are as many as a cursor hands out. -/
theorem State.sourceRows_eq (s : State) (table : String) :
    s.sourceRows table = (s.batchesFor ⟨"", table, [], 1⟩).flatten.length := by
  unfold State.sourceRows State.batchesFor
  cases s.feed with
  | batches batches => rfl
  | tables rows => simp only [chunks_flatten, List.length_map]

theorem State.sourceRows_of_service (h : s'.service = s.service) :
    s'.sourceRows = s.sourceRows := by
  have hbatches : s'.batchesFor = s.batchesFor := congrArg Service.batches h
  funext table
  rw [State.sourceRows_eq, State.sourceRows_eq, hbatches]

end Memory

namespace Transfer

open Memory (State appending stream rowsOf)

theorem Job.size_fill (job : Job) (rows : List Row) (c : Memory.Content) :
    (job.fill appending rows c).size
      = (match job.plan.mode with
         | .merge => c.size
         | .replace => 0) + rows.length := by
  cases hmode : job.plan.mode with
  | merge => simp [Job.fill, hmode, appending, Memory.Content.size, Int.add_assoc]
  | replace => simp [Job.fill, hmode, appending, Memory.Content.size]

/-- A transfer that works writes as many rows as its source table has, and leaves these in its own
    table: alone, or behind those that were there. -/
theorem Moves.sizes {plan : Plan} {source target : Table} {batchSize : Nat} {job : Job}
    {content : List (String × List Row)} {s s' : State} {steps : List Step} {t : Tally}
    (h : Moves Memory.backend job s steps (.ok (), t, s'))
    (hjob : Job.ofPlan plan source target batchSize = .ok job)
    (hbatches : s.batchesFor job.request
      = Memory.chunks (batchSize - 1) (wanted plan source content)) :
    t.rowsWritten = (rowsOf content source.name).length ∧
      (s'.contents target.name).size
        = (match plan.mode with
           | .merge => (s.contents target.name).size
           | .replace => 0) + t.rowsWritten := by
  obtain ⟨hadapt, hfilled⟩ := h.fills Memory.databases Memory.appending_rowWise
  have hserved : (Memory.databases.source.service s).batches job.request
      = Memory.chunks (batchSize - 1) (wanted plan source content) := hbatches
  rw [hserved, Memory.stream_chunks, List.flatten_append, Memory.chunks_flatten] at hadapt
  have hlength := (Job.adapt_eq_ok_iff.1 hadapt).length_eq
  have htally : t.rowsWritten = (written steps).flatten.length := by
    rw [h.tally, h.counted_eq]
  obtain ⟨columns, -, rfl⟩ := Job.ofPlan_eq_ok_iff.1 hjob
  have hcontents : s'.contents target.name
      = Job.fill appending _ (written steps).flatten (s.contents target.name) := hfilled
  refine ⟨?_, ?_⟩
  · rw [htally, ← hlength]
    simp [wanted]
  · rw [hcontents, htally, Job.size_fill]

end Transfer

namespace Run

open Memory (State)
open Transfer (Job Moves)

/-! ## The calls of a count check -/

section
variable {σ : Type} (b : Backend σ) (config : Config)

/-- All calls of a count check, in order. -/
def countTrace (s : σ) : List Step := (validate b.traced config (s, [])).2.2

theorem readCatalogs_isOk (s : σ) (h : ∀ x ∈ catalogSteps b config s, x.succeeded) :
    ∃ catalogs, (readCatalogs b config s).1 = .ok catalogs := by
  rcases hsource : b.sourceCatalog config.source.schema s with ⟨e | source, s₁⟩
  · have hfirst := h (.sourceCatalog config.source.schema (.error e))
      (by simp [catalogSteps, readCatalogs, Call.traced_eq hsource])
    cases hfirst
  rcases htarget : b.targetCatalog config.target.schema s₁ with ⟨e | target, s₂⟩
  · have hsecond := h (.targetCatalog config.target.schema (.error e))
      (by simp [catalogSteps, readCatalogs, Call.traced_eq hsource, Call.traced_eq htarget])
    cases hsecond
  · exact ⟨(source, target), by simp only [readCatalogs, hsource, htarget]⟩

/-- Counting is written down like any other call, and comes to an end if no call fails. -/
theorem countEach_traced (sourceSchema targetSchema : String) (tables : List String) (s : σ)
    (calls : List Step) :
    ∃ steps, countEach b.traced sourceSchema targetSchema tables (s, calls)
        = ((countEach b sourceSchema targetSchema tables s).1,
            (countEach b sourceSchema targetSchema tables s).2, calls ++ steps) ∧
      ((∀ x ∈ steps, x.succeeded) →
        ∃ checks, (countEach b sourceSchema targetSchema tables s).1 = .ok checks) := by
  induction tables generalizing s calls with
  | nil => exact ⟨[], by simp [countEach], fun _ => ⟨[], rfl⟩⟩
  | cons table rest ih =>
      rcases hsource : b.countSource sourceSchema table s with ⟨e | m, s₁⟩
      · refine ⟨[.countSource sourceSchema table (.error e)], ?_, fun h => ?_⟩
        · simp only [countEach, hsource, Call.traced_eq hsource]
        · cases h _ List.mem_cons_self
      rcases htarget : b.countTarget targetSchema table s₁ with ⟨e | n, s₂⟩
      · refine ⟨[.countSource sourceSchema table (.ok m),
          .countTarget targetSchema table (.error e)], ?_, fun h => ?_⟩
        · simp only [countEach, hsource, Call.traced_eq hsource, htarget, Call.traced_eq htarget,
            List.append_assoc, List.cons_append, List.nil_append]
        · cases h _ (List.mem_cons_of_mem _ List.mem_cons_self)
      obtain ⟨steps, htraced, hok⟩ := ih s₂ (calls ++ [.countSource sourceSchema table (.ok m)]
        ++ [.countTarget targetSchema table (.ok n)])
      refine ⟨[.countSource sourceSchema table (.ok m), .countTarget targetSchema table (.ok n)]
        ++ steps, ?_, fun h => ?_⟩
      · simp only [countEach, hsource, Call.traced_eq hsource, htarget, Call.traced_eq htarget]
        rw [htraced]
        rcases countEach b sourceSchema targetSchema rest s₂ with ⟨e | checks, s₃⟩
        all_goals simp only [List.append_assoc, List.cons_append, List.nil_append]
      · obtain ⟨checks, hchecks⟩ := hok (fun x hx => h x (List.mem_append_right _ hx))
        refine ⟨⟨table, m, n⟩ :: checks, ?_⟩
        rcases hrest : countEach b sourceSchema targetSchema rest s₂ with ⟨e | others, s₃⟩
        all_goals
          rw [hrest] at hchecks
          cases hchecks
        simp only [countEach, hsource, htarget, hrest]

end

/-- The tables of some entries that two catalogs both have. -/
def onBothSides (sources targets : Catalog) (entries : List Entry) : List String :=
  (entries.map Entry.table).filter (fun n => sources.contains n && targets.contains n)

/-- A count check in which no call fails gives the counts of all tables that both sides have. -/
theorem validate_of_succeeded {σ : Type} {b : Backend σ} {config : Config} {s : σ}
    (h : ∀ x ∈ countTrace b config s, x.succeeded) :
    ∃ sources targets ready checks s'',
      readCatalogs b config s = (.ok (sources, targets), ready) ∧
      countEach b config.source.schema config.target.schema
        (onBothSides sources targets (entriesOf config sources targets)) ready
          = (.ok checks, s'') ∧
      validate b config s = (.ok checks, s'') := by
  have hread := readCatalogs_traced b config s []
  rcases hcatalogs : readCatalogs b config s with ⟨e | ⟨sources, targets⟩, ready⟩
  all_goals rw [hcatalogs] at hread
  · obtain ⟨catalogs, hok⟩ := readCatalogs_isOk b config s (fun x hx => h x (by
      simpa only [countTrace, validate, hread, List.nil_append] using hx))
    rw [hcatalogs] at hok
    cases hok
  · obtain ⟨steps, htraced, hok⟩ := countEach_traced b config.source.schema config.target.schema
      (onBothSides sources targets (entriesOf config sources targets)) ready
      ([] ++ catalogSteps b config s)
    have htrace : countTrace b config s = catalogSteps b config s ++ steps := by
      rw [countTrace, validate, hread]
      exact congrArg (·.2.2) htraced
    obtain ⟨checks, hchecks⟩ :=
      hok (fun x hx => h x (htrace ▸ List.mem_append_right _ hx))
    refine ⟨sources, targets, ready, checks, _, rfl, Prod.ext hchecks rfl, ?_⟩
    rw [validate, hcatalogs]
    exact Prod.ext hchecks rfl

/-! ## What a count check counts -/

theorem countEach_eq {sourceSchema targetSchema : String} {tables : List String} {s s' : State}
    {checks : List CountCheck}
    (h : countEach Memory.backend sourceSchema targetSchema tables s = (.ok checks, s')) :
    checks = tables.map (fun n => ⟨n, s.sourceRows n, (s.contents n).size⟩) := by
  induction tables generalizing s s' checks with
  | nil =>
      cases h
      rfl
  | cons table rest ih =>
      rcases hsource : Memory.backend.countSource sourceSchema table s with ⟨e | m, s₁⟩
      · simp only [countEach, hsource] at h
        cases h
      rcases htarget : Memory.backend.countTarget targetSchema table s₁ with ⟨e | n, s₂⟩
      · simp only [countEach, hsource, htarget] at h
        cases h
      rcases hrest : countEach Memory.backend sourceSchema targetSchema rest s₂
        with ⟨e | others, s₃⟩
      · simp only [countEach, hsource, htarget, hrest] at h
        cases h
      simp only [countEach, hsource, htarget, hrest] at h
      cases h
      -- Counting leaves both databases, so every count is of the same rows.
      obtain ⟨hserved, hm⟩ := Memory.reading_service hsource
      obtain ⟨hserved', hn⟩ := Memory.reading_service htarget
      have hcontents := Memory.reading_contents hsource
      have hcontents' := Memory.reading_contents htarget
      rw [ih hrest, hm m rfl, hn n rfl, Memory.State.sourceRows_of_service hserved',
        Memory.State.sourceRows_of_service hserved, hcontents', hcontents]
      rfl

/-! ## What a run reports and what is counted -/

section
variable {config : Config} {dryRun : Bool} {content : List (String × List Row)}
  {checks : List CountCheck} {s s' s'' : State} {sources targets : Catalog} {entry : Entry}
  {report : TableReport}

/-- What a count check says of a table after a run that has reported on it. -/
structure Confirms (s : State) (checks : List CountCheck) (entry : Entry) (report : TableReport) :
    Prop where
  about : report.table = entry.table
  /-- Both sides have a table that succeeded. It is counted, and has what was reported as written:
      nothing else, if it was to be replaced. -/
  succeeded : report.status = .succeeded → ∃ source target,
    s.source.get? entry.table = some source ∧ s.target.get? entry.table = some target ∧
    ∃ check ∈ checks, check.table = entry.table ∧ check.sourceRows = report.rowsWritten ∧
      match (Plan.ofEntry entry source target).mode with
      | .replace => check.targetRows = report.rowsWritten ∧ check.isMatch = true
      | .merge => check.targetRows = (s.contents entry.table).size + report.rowsWritten
  /-- Any other table has what it had. -/
  kept : report.status ≠ .succeeded →
    ∀ check ∈ checks, check.table = entry.table →
      check.targetRows = (s.contents entry.table).size

/-- The counts of the tables that both sides have. -/
def countsOf (s final : State) (entries : List Entry) : List CountCheck :=
  (onBothSides s.source s.target entries).map
    (fun n => ⟨n, s.sourceRows n, (final.contents n).size⟩)

/-- A turn that succeeded has written as many rows as its source table has, and has left these in
    its own table: alone, or behind those that were there. -/
theorem Turn.Goes.sizes {t : Turn State}
    (h : t.Goes Memory.backend (settingOf config dryRun s.source s.target))
    (hserved : t.start.service = s.service) (hfeed : s.feed = .tables content)
    (hreport : t.report.status = .succeeded) :
    ∃ source target,
      s.source.get? t.entry.table = some source ∧ s.target.get? t.entry.table = some target ∧
      t.report.rowsWritten = s.sourceRows t.entry.table ∧
      (t.final.contents t.entry.table).size
        = (match (Plan.ofEntry t.entry source target).mode with
           | .merge => (t.start.contents t.entry.table).size
           | .replace => 0) + t.report.rowsWritten := by
  obtain ⟨source, target, job, tally, hcarried, hjob, hmoves, hwritten⟩ := h.of_succeeded hreport
  have hsource : s.source.get? source.name = some source := by
    rw [hcarried.source_name]
    exact hcarried.in_source
  have hbatches : t.start.batchesFor = s.batchesFor := congrArg Service.batches hserved
  obtain ⟨hrows, hleft⟩ := hmoves.sizes hjob
    ((congrFun hbatches _).trans (Job.batches_eq hjob hfeed hsource))
  rw [hcarried.source_name, ← hwritten] at hrows
  rw [hcarried.target_name, ← hwritten] at hleft
  refine ⟨source, target, hcarried.in_source, hcarried.in_target, ?_, hleft⟩
  simp only [State.sourceRows, hfeed, hrows]

theorem confirms_of_comes (hfeed : s.feed = .tables content) {entries : List Entry}
    (hentry : entry ∈ entries)
    (hcomes : Comes Memory.databases (settingOf config dryRun s.source s.target) s s' entry
      report) :
    Confirms s (countsOf s s' entries) entry report := by
  have hsize : ∀ check ∈ countsOf s s' entries, check.table = entry.table →
      check.targetRows = (s'.contents entry.table).size := by
    intro check hcheck htable
    obtain ⟨name, -, rfl⟩ := List.mem_map.1 hcheck
    cases htable
    rfl
  cases hcomes with
  | leftOut hkept =>
      have hkept : s'.contents entry.table = s.contents entry.table := hkept
      refine ⟨rfl, fun hreport => (by cases hreport), fun _ check hcheck htable => ?_⟩
      rw [hsize check hcheck htable, hkept]
  | @turned t hturn hgoes hserved hstart hfinal =>
      subst hturn
      have hfinal : s'.contents t.entry.table = t.final.contents t.entry.table := hfinal
      have hstart : t.start.contents t.entry.table = s.contents t.entry.table := hstart
      constructor
      case about => exact hgoes.report_table
      case kept =>
        intro hreport check hcheck htable
        have hkept : t.final.contents t.entry.table = t.start.contents t.entry.table :=
          hgoes.kept Memory.databases.target hreport
        rw [hsize check hcheck htable, hfinal, hkept, hstart]
      case succeeded =>
        intro hreport
        obtain ⟨source, target, hsource, htarget, hrows, hleft⟩ :=
          hgoes.sizes hserved hfeed hreport
        rw [← hfinal, hstart] at hleft
        have hboth : t.entry.table ∈ onBothSides s.source s.target entries :=
          List.mem_filter.2
            ⟨List.mem_map_of_mem hentry, by simp [Catalog.contains, hsource, htarget]⟩
        refine ⟨source, target, hsource, htarget, _, List.mem_map_of_mem hboth, rfl,
          congrArg _ hrows.symm, ?_⟩
        cases hmode : (Plan.ofEntry t.entry source target).mode with
        | merge => simpa [hmode] using hleft
        | replace =>
            have hrest : (s'.contents t.entry.table).size = t.report.rowsWritten := by
              simpa [hmode] using hleft
            exact ⟨hrest, by simp [CountCheck.isMatch, hrest, hrows]⟩

/-- Whatever failed in a run and wherever it was stopped, a count check behind it in which no call
    fails gives one entry for each table of the run that both sides have, in the order of the run.
    The entries confirm the reports: a table that was replaced has as many rows as its source and as
    were reported as written, and a table that did not succeed has as many as before. -/
theorem counts_confirm_reports {stamp : RunStamp} {hash : String}
    {o : Except MigrationError RunReport}
    (hrun : migrate Memory.backend config dryRun stamp hash s = (o, s'))
    (hfeed : s.feed = .tables content)
    (hconfig : (config.migration.tables.map Entry.table).Nodup)
    (hcalls : ∀ x ∈ countTrace Memory.backend config s', x.succeeded) :
    ∃ checks s'', validate Memory.backend config s' = (.ok checks, s'') ∧
      checks.map CountCheck.table
        = onBothSides s.source s.target (entriesOf config s.source s.target) ∧
      ∀ result, o = .ok result →
        List.Forall₂ (Confirms s checks) (entriesOf config s.source s.target) result.tables := by
  obtain ⟨sources, targets, ready, checks, s'', hcatalogs, hcount, hvalidate⟩ :=
    validate_of_succeeded hcalls
  -- The check reads what the run has read.
  have hserved : s'.service = s.service := migrate_service Memory.databases hrun
  obtain ⟨hready, hcontents, hread⟩ := readCatalogs_reads Memory.databases hcatalogs
  have hready : ready.service = s.service := hready.trans hserved
  have hcontents : ready.contents = s'.contents := hcontents
  have hsame : (sources, targets) = (s.source, s.target) :=
    (hread _ rfl).trans (congrArg (fun v : Service =>
      (v.sourceCatalog config.source.schema, v.targetCatalog config.target.schema)) hserved)
  cases hsame
  have hchecks : checks = countsOf s s' (entriesOf config s.source s.target) := by
    rw [countEach_eq hcount, Memory.State.sourceRows_of_service hready, hcontents]
    rfl
  refine ⟨checks, s'', hvalidate, ?_, ?_⟩
  · rw [hchecks, countsOf, List.map_map]
    exact List.map_id _
  · rintro result rfl
    rcases hstart : readCatalogs Memory.backend config s with ⟨e | catalogs, begun⟩
    · rw [migrate_of_error hstart] at hrun
      cases hrun
    · obtain ⟨hbegun, hkept, hcatalogs⟩ := readCatalogs_reads Memory.databases hstart
      cases hcatalogs _ rfl
      rw [migrate_of_ok hstart] at hrun
      cases hrun
      rw [hchecks]
      exact forall₂_imp_of_mem
        (fun entry hentry report hcomes =>
          confirms_of_comes hfeed hentry (hcomes.of_same hbegun hkept))
        (forall₂_runEntries Memory.databases _ begun (entriesOf_once hconfig))

end

namespace Sample

/-- Every target table held five rows, and one table cannot be committed. -/
def stocked : State := { uncommitted with contents := fun _ => ⟨5, []⟩ }

/-- A run that replaces one table and fails on the other. -/
def stockedRun : Except MigrationError RunReport × State :=
  migrate Memory.backend both false default "" stocked

end Sample

theorem sample_counts_confirm_reports :
    ∃ checks s'', validate Memory.backend Sample.both Sample.stockedRun.2 = (.ok checks, s'') ∧
      checks = [⟨"towns", 1, 1⟩, ⟨"people", 2, 5⟩] ∧
      ∀ result, Sample.stockedRun.1 = .ok result →
        result.tables.map TableReport.status = [.succeeded, .failed] ∧
          List.Forall₂ (Confirms Sample.stocked checks)
            (entriesOf Sample.both Sample.stocked.source Sample.stocked.target) result.tables := by
  have hrun : migrate Memory.backend Sample.both false default "" Sample.stocked
      = (Sample.stockedRun.1, Sample.stockedRun.2) := rfl
  obtain ⟨checks, s'', hvalidate, -, hconfirms⟩ :=
    counts_confirm_reports hrun rfl (by decide) (List.all_eq_true.1 (by decide +kernel))
  refine ⟨checks, s'', hvalidate, ?_, fun result hresult => ⟨?_, hconfirms result hresult⟩⟩
  · have hcounted : (validate Memory.backend Sample.both Sample.stockedRun.2).1.toOption
        = some [⟨"towns", 1, 1⟩, ⟨"people", 2, 5⟩] := by decide +kernel
    rw [hvalidate] at hcounted
    exact Option.some.inj hcounted
  · have hreported : Sample.stockedRun.1.toOption.map (fun r => r.tables.map TableReport.status)
        = some [.succeeded, .failed] := by decide +kernel
    rw [hresult] at hreported
    exact Option.some.inj hreported

end Run

end Ferry
