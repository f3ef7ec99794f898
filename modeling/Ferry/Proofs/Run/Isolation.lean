import Ferry.Proofs.Run.Complete
import Ferry.Proofs.Transfer.Agreement

set_option autoImplicit false

/-! # Isolation of tables

What becomes of a table in a run depends on that table alone: on its entry, on what both sides say
and hold of it, and on how the calls that are made for it end. Nothing is handed from one turn to
the next but the databases, and what a turn changes in them is its own table. So where in the order
a table stands, and what becomes of the others, is all the same to it. -/

namespace Ferry.Run

variable {σ₁ σ₂ κ : Type}

/-! ## Two runs -/

section
variable {b₁ : Backend σ₁} {b₂ : Backend σ₂} {storage : Storage κ} {setting₁ setting₂ : Setting}

/-- What is decided about an entry depends on what is known of its table alone. -/
theorem decide_congr {entry : Entry}
    (hsource : setting₁.source.get? entry.table = setting₂.source.get? entry.table)
    (htarget : setting₁.target.get? entry.table = setting₂.target.get? entry.table)
    (hidentical : setting₁.classification.isIdentical entry.table
      = setting₂.classification.isIdentical entry.table)
    (hdry : setting₁.dryRun = setting₂.dryRun) : decide setting₁ entry = decide setting₂ entry := by
  simp only [decide, hsource, htarget, hidentical, hdry]

/-- Turns of one entry that is decided about in the same way, between databases that agree about
    its table, make the same calls, report the same and leave the same. -/
theorem Turn.Goes.agree (D₁ : Databases b₁ storage) (D₂ : Databases b₂ storage) {t₁ : Turn σ₁}
    {t₂ : Turn σ₂} (h₁ : t₁.Goes b₁ setting₁) (h₂ : t₂.Goes b₂ setting₂)
    (hentry : t₁.entry = t₂.entry)
    (hdecide : decide setting₁ t₁.entry = decide setting₂ t₂.entry)
    (hbatchSize : setting₁.batchSize = setting₂.batchSize)
    (hrows : ∀ request, request.table = t₁.entry.table →
      (D₁.source.service t₁.start).batches request = (D₂.source.service t₂.start).batches request)
    (hcontent : D₁.target.content t₁.start t₁.entry.table
      = D₂.target.content t₂.start t₁.entry.table)
    (halike : Alike t₁.steps t₂.steps) :
    t₁.report = t₂.report ∧ t₁.steps = t₂.steps ∧
      D₁.target.content t₁.final t₁.entry.table = D₂.target.content t₂.final t₁.entry.table := by
  cases h₁ with
  | settled hdecide₁ =>
      cases h₂ with
      | settled hdecide₂ =>
          cases hdecide₁.symm.trans (hdecide.trans hdecide₂)
          exact ⟨rfl, rfl, hcontent⟩
      | moved hdecide₂ => cases hdecide₁.symm.trans (hdecide.trans hdecide₂)
  | moved hdecide₁ hjob₁ hmoves₁ =>
      cases h₂ with
      | settled hdecide₂ => cases hdecide₁.symm.trans (hdecide.trans hdecide₂)
      | moved hdecide₂ hjob₂ hmoves₂ =>
          cases hdecide₁.symm.trans (hdecide.trans hdecide₂)
          rw [hbatchSize] at hjob₁
          cases hjob₁.symm.trans hjob₂
          obtain ⟨hrequest, htable⟩ := (carried_of_decide hdecide₁).job_tables hjob₂
          rw [← htable] at hcontent ⊢
          obtain ⟨hsteps, houtcome, htally⟩ :=
            hmoves₁.agree D₁ D₂ hmoves₂ (hrows _ hrequest) hcontent halike
          refine ⟨by rw [houtcome, htally], hsteps, ?_⟩
          exact hmoves₁.agree_content D₁ D₂ hmoves₂ hsteps houtcome hcontent

/-- Two runs agree about the table of an entry. They may differ in everything else. -/
structure Agree (D₁ : Databases b₁ storage) (D₂ : Databases b₂ storage) (R₁ : CompleteRun b₁)
    (R₂ : CompleteRun b₂) (entry : Entry) : Prop where
  ordered : entry ∈ R₁.entries ∧ entry ∈ R₂.entries
  identical : (classify R₁.sources R₁.targets).isIdentical entry.table
    = (classify R₂.sources R₂.targets).isIdentical entry.table
  source : R₁.sources.get? entry.table = R₂.sources.get? entry.table
  target : R₁.targets.get? entry.table = R₂.targets.get? entry.table
  batchSize : R₁.config.migration.batchSize = R₂.config.migration.batchSize
  /-- The rows of the table in the source, as they are read. -/
  rows : ∀ request, request.table = entry.table →
    (D₁.source.service R₁.start).batches request = (D₂.source.service R₂.start).batches request
  /-- The table in the target before the run. -/
  content : D₁.target.content R₁.start entry.table = D₂.target.content R₂.start entry.table
  /-- The calls for the table end alike. -/
  calls : Alike (R₁.callsFor entry.table) (R₂.callsFor entry.table)

/-- To a table everything is the same in two runs that agree about it. -/
structure SameFor (D₁ : Databases b₁ storage) (D₂ : Databases b₂ storage) (R₁ : CompleteRun b₁)
    (R₂ : CompleteRun b₂) (table : String) : Prop where
  report : ∃ report, R₁.reportsOn table = [report] ∧ R₂.reportsOn table = [report]
  calls : R₁.callsFor table = R₂.callsFor table
  content : D₁.target.content R₁.final table = D₂.target.content R₂.final table

theorem sameFor_of_agree (D₁ : Databases b₁ storage) (D₂ : Databases b₂ storage)
    (R₁ : CompleteRun b₁) (R₂ : CompleteRun b₂) {entry : Entry} (h : Agree D₁ D₂ R₁ R₂ entry) :
    SameFor D₁ D₂ R₁ R₂ entry.table := by
  obtain ⟨t₁, ht₁, rfl, hgoes₁, hserved₁, hstart₁, hfinal₁⟩ := R₁.exists_turn D₁ h.ordered.1
  obtain ⟨t₂, ht₂, hentry, hgoes₂, hserved₂, hstart₂, hfinal₂⟩ := R₂.exists_turn D₂ h.ordered.2
  obtain ⟨hreports₁, hcalls₁⟩ := R₁.of_turn ht₁
  obtain ⟨hreports₂, hcalls₂⟩ := R₂.of_turn ht₂
  rw [hentry] at hreports₂ hcalls₂
  have hdecide : decide R₁.setting t₁.entry = decide R₂.setting t₂.entry := by
    rw [hentry]
    exact decide_congr h.source h.target h.identical rfl
  obtain ⟨hreport, hsteps, hcontent⟩ := hgoes₁.agree D₁ D₂ hgoes₂ hentry.symm hdecide h.batchSize
    (fun request hrequest => by rw [hserved₁, hserved₂, h.rows request hrequest])
    (by rw [hstart₁, hstart₂, h.content])
    (by rw [← hcalls₁, ← hcalls₂]; exact h.calls)
  refine ⟨⟨t₁.report, hreports₁, ?_⟩, ?_, ?_⟩
  · rw [hreports₂, hreport]
  · rw [hcalls₁, hcalls₂, hsteps]
  · rw [hfinal₁, hfinal₂, hcontent]

/-- Tables are isolated from each other: if two runs agree about a table, then its report, the calls
    that are made for it and what it holds afterwards are the same in both, whatever becomes of all
    other tables. If they agree about all their tables and have them in different orders, the
    reports are the same ones in different orders. -/
theorem tables_isolated (D₁ : Databases b₁ storage) (D₂ : Databases b₂ storage)
    (R₁ : CompleteRun b₁) (R₂ : CompleteRun b₂) :
    (∀ entry, Agree D₁ D₂ R₁ R₂ entry → SameFor D₁ D₂ R₁ R₂ entry.table) ∧
    (R₁.entries.Perm R₂.entries → (∀ entry ∈ R₁.entries, Agree D₁ D₂ R₁ R₂ entry) →
      R₁.result.tables.Perm R₂.result.tables) := by
  refine ⟨fun entry h => sameFor_of_agree D₁ D₂ R₁ R₂ h, fun horder hagree => ?_⟩
  rw [R₁.tables_flatMap, R₂.tables_flatMap]
  have hsame : ∀ entry ∈ R₁.entries, R₁.reportsOn entry.table = R₂.reportsOn entry.table := by
    intro entry hentry
    obtain ⟨report, hreport₁, hreport₂⟩ :=
      (sameFor_of_agree D₁ D₂ R₁ R₂ (hagree entry hentry)).report
    rw [hreport₁, hreport₂]
  rw [List.flatMap_congr hsame]
  exact horder.flatMap_right _

end

/-! ## Two orders and a failure -/

namespace Sample

/-- The further table comes last, and nothing fails. -/
def quietRun : CompleteRun Memory.backend :=
  .ofReads (config [Ferry.Sample.entry, .straightCopy "towns"]) state rfl (by decide +kernel)
    (by decide)

/-- The further table comes first, and cannot be emptied. -/
def faultyRun : CompleteRun Memory.backend :=
  .ofReads (config [.straightCopy "towns", Ferry.Sample.entry])
    { state with
      faults := [⟨.truncate, some "towns", none, .fail (.transfer "towns" "locked"), 0⟩] }
    rfl (by decide +kernel) (by decide)

end Sample

theorem sample_tables_isolated :
    (Sample.faultyRun.reportsOn "towns").map TableReport.status = [.failed] ∧
      SameFor Memory.databases Memory.databases Sample.quietRun Sample.faultyRun "people" := by
  refine ⟨by decide +kernel, ?_⟩
  have hquiet : Sample.quietRun.entries = [Ferry.Sample.entry, .straightCopy "towns"] := rfl
  have hfaulty : Sample.faultyRun.entries = [.straightCopy "towns", Ferry.Sample.entry] := rfl
  have hcalls : (Sample.quietRun.callsFor "people").map Step.outcome
      = (Sample.faultyRun.callsFor "people").map Step.outcome := by decide +kernel
  refine (tables_isolated Memory.databases Memory.databases Sample.quietRun
    Sample.faultyRun).1 Ferry.Sample.entry ?_
  refine ⟨⟨?_, ?_⟩, rfl, rfl, rfl, rfl, fun request _ => rfl, rfl, .inl ?_⟩
  · rw [hquiet]
    exact List.mem_cons_self
  · rw [hfaulty]
    exact List.mem_cons_of_mem _ List.mem_cons_self
  · exact hcalls ▸ List.prefix_rfl

end Ferry.Run
