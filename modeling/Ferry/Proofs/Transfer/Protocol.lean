import Ferry.Proofs.Transfer.Job
import Ferry.Proofs.Transfer.Steps
import Mathlib.Data.List.Chain

set_option autoImplicit false

/-! # The protocol of a transfer

In which order a transfer calls the databases, on any backend and whichever calls fail. `Protocol`
states the rules one by one; `run_protocol` is that every transfer keeps them. The rules are read
off the ways of `Moves`: what happens between the beginning of the transaction and its end is a list
of steps of `Fills`, about which there is one lemma for each rule. -/

namespace Ferry.Transfer

open Memory (CallKind)

/-! ## Counting and ordering steps -/

/-- How often a call was made. -/
def calls (kind : CallKind) (steps : List Step) : Nat := (steps.map Step.kind).count kind

/-- Whether a call was made and succeeded. -/
def did (kind : CallKind) (steps : List Step) : Bool :=
  steps.any (fun x => x.kind == kind && x.succeeded)

/-- After a call of the first kind there is none of the second. -/
def NoneAfter (first second : CallKind) (steps : List Step) : Prop :=
  steps.Pairwise (fun x y => x.kind = first → y.kind ≠ second)

/-- The calls that read and write batches, in order. -/
def copying (steps : List Step) : List CallKind :=
  (steps.map Step.kind).filter (fun k => k == .nextBatch || k == .write)

/-- The rules of a transfer of `plan` between two tables, for its steps and its report. -/
structure Protocol (plan : Plan) (source target : Table) (batchSize : Nat) (steps : List Step)
    (report : TableReport) : Prop where
  /-- Nothing is called when the source lacks a column that is to be read. -/
  silent : (∃ name ∈ plan.readColumns, source.column? name = none) → steps = []
  /-- Otherwise the cursor is opened before anything else, and once. -/
  opens : (∀ name ∈ plan.readColumns, source.column? name ≠ none) →
    (steps.map Step.kind).head? = some .openCursor ∧ calls .openCursor steps = 1
  /-- The transaction is begun once if the cursor could be opened, and never if it could not. -/
  begins : calls .beginSession steps = if did .openCursor steps then 1 else 0
  /-- The table is emptied once in a transaction that replaces it, and never otherwise. -/
  empties : calls .truncate steps
    = if plan.mode = .replace ∧ did .beginSession steps then 1 else 0
  /-- It is emptied before the first batch is read, and after the transaction was begun. -/
  empties_first : NoneAfter .nextBatch .truncate steps ∧ NoneAfter .truncate .beginSession steps
  /-- Batches are read and written in turn, and a read comes first. -/
  alternates : (copying steps).IsChain (· ≠ ·) ∧ (copying steps).head? ≠ some .write
  /-- No batch is read or written once a call has failed. -/
  stops : steps.Pairwise (fun x y => x.succeeded = false → y.kind ≠ .nextBatch ∧ y.kind ≠ .write)
  /-- The cursor is closed once if it could be opened, and never if it could not. -/
  closes : calls .closeCursor steps = if did .openCursor steps then 1 else 0
  /-- It is closed behind the last batch and before the transaction ends. -/
  closes_between : NoneAfter .closeCursor .nextBatch steps ∧ NoneAfter .closeCursor .write steps ∧
    NoneAfter .commit .closeCursor steps ∧ NoneAfter .rollback .closeCursor steps
  /-- A transaction that was begun is either committed or rolled back, once; no other is. -/
  ends : calls .commit steps + calls .rollback steps = if did .beginSession steps then 1 else 0
  /-- This is the last call. -/
  ends_last : did .beginSession steps →
    ∃ last, steps.getLast? = some last ∧ (last.kind = .commit ∨ last.kind = .rollback)
  /-- It is committed just when emptying, every read, every adaptation and every write succeeded
      and an empty batch ended the stream. -/
  commits : 0 < calls .commit steps ↔
    (∀ x ∈ steps, x.kind ∈ [.truncate, .nextBatch, .write] → x.succeeded) ∧
    (∀ rows, .nextBatch (.ok rows) ∈ steps → ∃ job adapted,
      Job.ofPlan plan source target batchSize = .ok job ∧ job.adapt rows = .ok adapted) ∧
    .nextBatch (.ok []) ∈ steps
  /-- The report is a success just when the transaction was committed and that succeeded. -/
  reports : report.status = .succeeded ↔ did .commit steps

/-- The place of a call in the course of a transfer. -/
def stage : CallKind → Nat
  | .openCursor => 0
  | .beginSession => 1
  | .truncate => 2
  | .nextBatch | .write => 3
  | .closeCursor => 4
  | _ => 5

/-- Every step stands where the course of a transfer has it. -/
def InCourse (steps : List Step) : Prop :=
  steps.Pairwise (fun x y => stage x.kind ≤ stage y.kind)

theorem InCourse.noneAfter {first second : CallKind} {steps : List Step} (h : InCourse steps)
    (hlt : stage second < stage first) : NoneAfter first second steps := by
  refine h.imp ?_
  rintro x y hle rfl rfl
  omega

section
variable {kind first second : CallKind} {x : Step} {xs ys : List Step}

@[simp] theorem calls_nil : calls kind [] = 0 := rfl

@[simp] theorem calls_cons :
    calls kind (x :: xs) = calls kind xs + if x.kind = kind then 1 else 0 := by
  simp [calls, List.count_cons]

@[simp] theorem calls_append : calls kind (xs ++ ys) = calls kind xs + calls kind ys := by
  simp [calls]

theorem calls_eq_zero (h : ∀ x ∈ xs, x.kind ≠ kind) : calls kind xs = 0 := by
  rw [calls, List.count_eq_zero]
  intro hmem
  obtain ⟨x, hx, hkind⟩ := List.mem_map.1 hmem
  exact h x hx hkind

@[simp] theorem did_nil : did kind [] = false := rfl

@[simp] theorem did_cons :
    did kind (x :: xs) = ((x.kind == kind && x.succeeded) || did kind xs) := rfl

@[simp] theorem did_append : did kind (xs ++ ys) = (did kind xs || did kind ys) := by
  simp [did]

theorem did_eq_false (h : ∀ x ∈ xs, x.kind ≠ kind) : did kind xs = false := by
  rw [did, List.any_eq_false]
  intro x hx
  simp [h x hx]

@[simp] theorem copying_nil : copying [] = [] := rfl

@[simp] theorem copying_cons :
    copying (x :: xs)
      = (if x.kind = .nextBatch ∨ x.kind = .write then [x.kind] else []) ++ copying xs := by
  simp only [copying, List.map_cons, List.filter_cons, Bool.or_eq_true, beq_iff_eq]
  split <;> rfl

@[simp] theorem copying_append : copying (xs ++ ys) = copying xs ++ copying ys := by
  simp [copying]

end

/-! ## The steps of copying -/

section
variable {σ : Type} {b : Backend σ} {job : Job} {c : b.Cursor} {k : b.Session} {t : Tally} {s : σ}
  {steps : List Step} {r : Copied b}

theorem Copies.kinds (h : Copies b job c k t s steps r) :
    ∀ x ∈ steps, x.kind = .nextBatch ∨ x.kind = .write := by
  induction h with
  | readFails | exhausted | unadaptable => simp
  | writeFails => simp
  | round _ _ _ _ _ ih => simpa using ih

theorem Copies.copying_eq (h : Copies b job c k t s steps r) :
    copying steps = steps.map Step.kind := by
  rw [copying, List.filter_eq_self]
  intro kind hmem
  obtain ⟨x, hx, rfl⟩ := List.mem_map.1 hmem
  rcases h.kinds x hx with hkind | hkind <;> simp [hkind]

theorem Copies.head (h : Copies b job c k t s steps r) :
    (copying steps).head? = some .nextBatch := by
  rw [h.copying_eq]
  cases h <;> rfl

theorem Copies.chain (h : Copies b job c k t s steps r) : (copying steps).IsChain (· ≠ ·) := by
  rw [h.copying_eq]
  induction h with
  | readFails | exhausted | unadaptable => exact List.isChain_singleton _
  | writeFails => simp
  | round _ _ _ _ rest ih =>
      have hhead := rest.head
      rw [rest.copying_eq] at hhead
      refine List.isChain_cons.2 ⟨by simp, List.isChain_cons.2 ⟨?_, ih⟩⟩
      intro kind hkind
      rw [hhead] at hkind
      cases hkind
      simp

/-- Only the last step can be one that failed. -/
theorem Copies.succeeded (h : Copies b job c k t s steps r) :
    steps.Pairwise (fun x _ => x.succeeded) := by
  induction h with
  | readFails | exhausted | unadaptable => exact List.pairwise_singleton _ _
  | writeFails => simp
  | round _ _ _ _ _ ih => simp [ih]

/-- Nothing failed, every batch could be adapted, and an empty one ended the stream. -/
def Exhausted (job : Job) (steps : List Step) : Prop :=
  (∀ x ∈ steps, x.succeeded) ∧
  (∀ rows, .nextBatch (.ok rows) ∈ steps → ∃ adapted, job.adapt rows = .ok adapted) ∧
  .nextBatch (.ok []) ∈ steps

theorem Copies.ok_iff (h : Copies b job c k t s steps r) :
    r.outcome = .ok () ↔ Exhausted job steps := by
  induction h with
  | readFails => simp [Exhausted]
  | exhausted => simp [Exhausted, Job.adapt, adaptBatch]
  | unadaptable _ hrows hadapt => simp [Exhausted, hadapt]
  | writeFails => simp [Exhausted]
  | round _ hrows hadapt _ _ ih =>
      rw [ih]
      simp [Exhausted, hadapt, hrows.symm]

/-! ## The steps of filling -/

theorem Fills.kinds (h : Fills b job c k s steps r) :
    ∀ x ∈ steps, x.kind = .truncate ∨ x.kind = .nextBatch ∨ x.kind = .write := by
  cases h with
  | merges _ rest => exact fun x hx => .inr (rest.kinds x hx)
  | notEmptied => simp
  | replaces _ _ rest =>
      intro x hx
      rcases List.mem_cons.1 hx with rfl | hx
      · exact .inl rfl
      · exact .inr (rest.kinds x hx)

theorem Fills.ne_kind (h : Fills b job c k s steps r) {kind : CallKind}
    (hkind : stage kind < 2 ∨ 3 < stage kind) : ∀ x ∈ steps, x.kind ≠ kind := by
  rintro x hx rfl
  rcases h.kinds x hx with hx | hx | hx <;> simp [hx, stage] at hkind

theorem Fills.alternates (h : Fills b job c k s steps r) :
    (copying steps).IsChain (· ≠ ·) ∧ (copying steps).head? ≠ some .write := by
  cases h with
  | merges _ rest => simp [rest.chain, rest.head]
  | notEmptied => simp
  | replaces _ _ rest => simp [rest.chain, rest.head]

theorem Fills.empties (h : Fills b job c k s steps r) :
    calls .truncate steps = if job.plan.mode = .replace then 1 else 0 := by
  have hnone {k t s steps r} (h : Copies b job c k t s steps r) : calls .truncate steps = 0 := by
    refine calls_eq_zero (fun x hx hkind => ?_)
    rcases h.kinds x hx with hx | hx <;> simp [hx] at hkind
  cases h with
  | merges hmode rest => simp [hnone rest, hmode]
  | notEmptied hmode => simp [hmode]
  | replaces hmode _ rest => simp [hnone rest, hmode]

theorem Fills.inCourse (h : Fills b job c k s steps r) : InCourse steps := by
  have hlater {k t s steps r} (h : Copies b job c k t s steps r) :
      ∀ x ∈ steps, stage x.kind = 3 := by
    intro x hx
    rcases h.kinds x hx with hx | hx <;> simp [hx, stage]
  have hsorted {k t s steps r} (h : Copies b job c k t s steps r) : InCourse steps :=
    List.pairwise_of_forall_mem_list (fun x hx y hy => by rw [hlater h x hx, hlater h y hy])
  cases h with
  | merges _ rest => exact hsorted rest
  | notEmptied => exact List.pairwise_singleton _ _
  | replaces _ _ rest =>
      refine List.pairwise_cons.2 ⟨fun y hy => ?_, hsorted rest⟩
      rw [hlater rest y hy]
      simp [stage]

theorem Fills.succeeded (h : Fills b job c k s steps r) :
    steps.Pairwise (fun x _ => x.succeeded) := by
  cases h with
  | merges _ rest => exact rest.succeeded
  | notEmptied => exact List.pairwise_singleton _ _
  | replaces _ _ rest => simp [rest.succeeded]

theorem Fills.ok_iff (h : Fills b job c k s steps r) :
    r.outcome = .ok () ↔ Exhausted job steps := by
  cases h with
  | merges _ rest => exact rest.ok_iff
  | notEmptied => simp [Exhausted]
  | replaces _ _ rest =>
      rw [rest.ok_iff]
      simp [Exhausted]

end

/-! ## The steps of a transaction -/

/-- A transaction around the steps of filling. -/
def framed (job : Job) (steps : List Step) (closed : Except MigrationError Unit) (ending : Step) :
    List Step :=
  [.openCursor job.request (.ok ()), .beginSession (.ok ())] ++ steps
    ++ [.closeCursor closed, ending]

section
variable {σ : Type} {b : Backend σ} {plan : Plan} {source target : Table} {batchSize : Nat}
  {job : Job} {c : b.Cursor} {k : b.Session} {s : σ} {steps : List Step} {r : Copied b}
  (closed : Except MigrationError Unit) {ending : Step} {report : TableReport}

theorem Fills.framed_inCourse (h : Fills b job c k s steps r)
    (hending : ending.kind = .commit ∨ ending.kind = .rollback) :
    InCourse (framed job steps closed ending) := by
  have hlast : stage ending.kind = 5 := by rcases hending with hk | hk <;> rw [hk] <;> rfl
  have hmiddle : ∀ x ∈ steps, 2 ≤ stage x.kind ∧ stage x.kind ≤ 3 := by
    intro x hx
    rcases h.kinds x hx with hx | hx | hx <;> simp [hx, stage]
  refine List.pairwise_append.2 ⟨List.pairwise_append.2 ⟨?_, h.inCourse, ?_⟩, ?_, ?_⟩
  · exact List.pairwise_pair.2 (Nat.zero_le _)
  · intro x hx y hy
    have hy := (hmiddle y hy).1
    rcases List.mem_pair.1 hx with rfl | rfl
    · exact Nat.zero_le _
    · exact Nat.le_of_succ_le hy
  · rw [List.pairwise_pair, hlast]
    exact Nat.le_succ 4
  · intro x hx y hy
    have hx : stage x.kind ≤ 3 := by
      rcases List.mem_append.1 hx with hx | hx
      · rcases List.mem_pair.1 hx with rfl | rfl <;> simp [stage]
      · exact (hmiddle x hx).2
    have hy : 4 ≤ stage y.kind := by
      rcases List.mem_pair.1 hy with rfl | rfl
      · exact Nat.le_refl 4
      · rw [hlast]
        exact Nat.le_succ 4
    omega

theorem Fills.framed_stops (h : Fills b job c k s steps r)
    (hending : ending.kind = .commit ∨ ending.kind = .rollback) :
    (framed job steps closed ending).Pairwise
      (fun x y => x.succeeded = false → y.kind ≠ .nextBatch ∧ y.kind ≠ .write) := by
  -- Before the last step of filling everything succeeded, and behind it nothing is copied.
  have hbehind : ∀ y ∈ [Step.closeCursor closed, ending],
      y.kind ≠ .nextBatch ∧ y.kind ≠ .write := by
    intro y hy
    rcases List.mem_pair.1 hy with rfl | rfl
    · simp
    · rcases hending with hk | hk <;> simp [hk]
  refine List.pairwise_append.2 ⟨List.pairwise_append.2 ⟨?_, ?_, ?_⟩, ?_, ?_⟩
  · exact List.pairwise_pair.2 (fun hfail => by simp at hfail)
  · refine h.succeeded.imp ?_
    intro x y hx hfail
    rw [hx] at hfail
    cases hfail
  · intro x hx y _ hfail
    rcases List.mem_pair.1 hx with rfl | rfl <;> cases hfail
  · exact List.pairwise_pair.2 (fun _ => hbehind ending (by simp))
  · exact fun x _ y hy _ => hbehind y hy

/-- Of the steps of a transaction, those that empty, read or write are the steps of filling. -/
theorem mem_framed_iff (hending : ending.kind = .commit ∨ ending.kind = .rollback) {x : Step}
    (hx : x.kind ∈ [.truncate, .nextBatch, .write]) :
    x ∈ framed job steps closed ending ↔ x ∈ steps := by
  have hframe {y : Step} (hy : y.kind ∉ [.truncate, .nextBatch, .write]) : x ≠ y := by
    rintro rfl
    exact hy hx
  have hne : x ≠ ending := hframe (by rcases hending with hk | hk <;> simp [hk])
  have hopen : x ≠ .openCursor job.request (.ok ()) := hframe (by simp)
  have hbegin : x ≠ .beginSession (.ok ()) := hframe (by simp)
  have hclose : x ≠ .closeCursor closed := hframe (by simp)
  simp [framed, hne, hopen, hbegin, hclose]

theorem Fills.exhausted_iff (h : Fills b job c k s steps r)
    (hending : ending.kind = .commit ∨ ending.kind = .rollback) :
    Exhausted job steps ↔
      (∀ x ∈ framed job steps closed ending,
        x.kind ∈ [.truncate, .nextBatch, .write] → x.succeeded) ∧
      (∀ rows, .nextBatch (.ok rows) ∈ framed job steps closed ending →
        ∃ adapted, job.adapt rows = .ok adapted) ∧
      .nextBatch (.ok []) ∈ framed job steps closed ending := by
  have hmem {x : Step} (hx : x.kind ∈ [.truncate, .nextBatch, .write]) :
      x ∈ framed job steps closed ending ↔ x ∈ steps := mem_framed_iff closed hending hx
  have hread (rows : List Row) : Step.nextBatch (.ok rows) ∈ framed job steps closed ending
      ↔ Step.nextBatch (.ok rows) ∈ steps := hmem (by simp)
  have hall : (∀ x ∈ steps, x.succeeded) ↔ ∀ x ∈ framed job steps closed ending,
      x.kind ∈ [.truncate, .nextBatch, .write] → x.succeeded := by
    constructor
    · exact fun hsteps x hx hkind => hsteps x ((hmem hkind).1 hx)
    · intro hframed x hx
      have hkind : x.kind ∈ [.truncate, .nextBatch, .write] := by simpa using h.kinds x hx
      exact hframed x ((hmem hkind).2 hx) hkind
  rw [Exhausted, hall]
  simp only [hread]

/-- A transaction keeps the rules if it ends as filling went and the report tells that. -/
theorem Fills.protocol (h : Fills b job c k s steps r)
    (hjob : Job.ofPlan plan source target batchSize = .ok job)
    (hending : ending.kind = .commit ∨ ending.kind = .rollback)
    (hcommit : ending.kind = .commit ↔ r.outcome = .ok ())
    (hreport : report.status = .succeeded ↔ ending.kind = .commit ∧ ending.succeeded) :
    Protocol plan source target batchSize (framed job steps closed ending) report := by
  have hcourse := h.framed_inCourse closed hending
  have hplan : job.plan = plan := by
    obtain ⟨columns, -, rfl⟩ := Job.ofPlan_eq_ok_iff.1 hjob
    rfl
  -- Filling neither opens nor closes nor ends anything: those calls are made around it.
  have hcalls (kind : CallKind) (hkind : stage kind < 2 ∨ 3 < stage kind) :
      calls kind steps = 0 := calls_eq_zero (h.ne_kind hkind)
  have hdid (kind : CallKind) (hkind : stage kind < 2 ∨ 3 < stage kind) :
      did kind steps = false := did_eq_false (h.ne_kind hkind)
  constructor
  case silent =>
    rintro ⟨name, hname, hnone⟩
    exact absurd hnone (Job.exists_ofPlan_iff.1 ⟨job, hjob⟩ name hname)
  case opens =>
    refine fun _ => ⟨rfl, ?_⟩
    rcases hending with hk | hk <;> simp [framed, hcalls, hk, stage]
  case begins | closes | ends =>
    rcases hending with hk | hk <;> simp [framed, hcalls, hdid, hk, stage]
  case empties =>
    have hempties := h.empties
    rw [hplan] at hempties
    rcases hending with hk | hk <;> simp [framed, hempties, hk]
  -- These two are about the order of the calls, which the course settles.
  case empties_first => exact ⟨hcourse.noneAfter (by decide), hcourse.noneAfter (by decide)⟩
  case closes_between =>
    exact ⟨hcourse.noneAfter (by decide), hcourse.noneAfter (by decide),
      hcourse.noneAfter (by decide), hcourse.noneAfter (by decide)⟩
  case alternates =>
    have hcopying : copying (framed job steps closed ending) = copying steps := by
      rcases hending with hk | hk <;> simp [framed, hk]
    rw [hcopying]
    exact h.alternates
  case stops => exact h.framed_stops closed hending
  case ends_last =>
    exact fun _ => ⟨ending, by rw [framed, List.append_cons, List.getLast?_concat], hending⟩
  case commits =>
    have hcommitted : 0 < calls .commit (framed job steps closed ending)
        ↔ ending.kind = .commit := by
      rcases hending with hk | hk <;> simp [framed, hcalls, hk, stage]
    have hadapts (rows : List Row) : (∃ adapted, job.adapt rows = .ok adapted) ↔
        ∃ job adapted, Job.ofPlan plan source target batchSize = .ok job ∧
          job.adapt rows = .ok adapted := by
      simp [hjob]
    rw [hcommitted, hcommit, h.ok_iff, h.exhausted_iff closed hending]
    simp only [hadapts]
  case reports =>
    rw [hreport]
    rcases hending with hk | hk <;> simp [framed, hdid, hk, stage]

end

/-! ## The steps of a transfer -/

theorem report_succeeded_iff {table : String} {outcome : Except MigrationError Unit}
    {tally : Tally} : (report table outcome tally).status = .succeeded ↔ outcome.isOk := by
  cases outcome <;> simp [report, TableReport.succeeded, TableReport.failed]

/-- Moving a table keeps the rules on each of its ways. -/
theorem Moves.protocol {σ : Type} {b : Backend σ} {plan : Plan} {source target : Table}
    {batchSize : Nat} {job : Job} {s s' : σ} {steps : List Step}
    {outcome : Except MigrationError Unit} {tally : Tally}
    (h : Moves b job s steps (outcome, tally, s'))
    (hjob : Job.ofPlan plan source target batchSize = .ok job) :
    Protocol plan source target batchSize steps (report plan.table outcome tally) := by
  have hpresent := Job.exists_ofPlan_iff.1 ⟨job, hjob⟩
  have hsilent : ¬ ∃ name ∈ plan.readColumns, source.column? name = none := by
    rintro ⟨name, hname, hnone⟩
    exact hpresent name hname hnone
  cases h with
  | notOpened hopen =>
      constructor <;> simp [hsilent, NoneAfter, report_succeeded_iff]
  | notBegun hopen hbegin hclose =>
      constructor <;> simp [hsilent, NoneAfter, report_succeeded_iff]
  | filled hopen hbegin hfill hdone hclose hcommit =>
      refine hfill.protocol _ hjob (.inl rfl) ?_ ?_
      · simp [hdone]
      · simp [report_succeeded_iff]
  | failed hopen hbegin hfill hfail hclose hundo =>
      refine hfill.protocol _ hjob (.inr rfl) ?_ ?_
      · simp [hfail]
      · simp [report_succeeded_iff]

/-- A transfer keeps the rules of the protocol, on any backend and whichever calls fail on it. -/
theorem run_protocol {σ : Type} (b : Backend σ) (plan : Plan) (source target : Table)
    (batchSize : Nat) (s : σ) :
    Protocol plan source target batchSize (trace b plan source target batchSize s)
      (run b plan source target batchSize s).1 := by
  rcases run_cases b plan source target batchSize s with
    ⟨e, hjob, htrace, hrun⟩ | ⟨job, outcome, tally, s', hjob, hmoves, hrun⟩
  · have hnone : ¬ ∀ name ∈ plan.readColumns, source.column? name ≠ none := by
      intro hall
      obtain ⟨job, hsome⟩ := Job.exists_ofPlan_iff.2 hall
      rw [hjob] at hsome
      cases hsome
    rw [htrace, hrun]
    constructor <;> simp [hnone, NoneAfter, report_succeeded_iff]
  · rw [hrun]
    exact hmoves.protocol hjob

end Ferry.Transfer
