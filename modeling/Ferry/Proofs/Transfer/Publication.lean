import Ferry.Proofs.Backend.Publication
import Ferry.Proofs.Transfer.Protocol
import Ferry.Proofs.Transfer.Rows
import Ferry.Proofs.Transfer.Storage

set_option autoImplicit false

/-! # What a transfer publishes

A table is moved wholly or not at all: what its steps have staged is published if the transaction
is committed, and the rows in it are those that were handed out, adapted. -/

namespace Ferry.Transfer

open Memory (Content Contents Change filling)

/-! ## Copying -/

section
variable {σ : Type} {b : Backend σ} {job : Job} {c : b.Cursor} {k : b.Session} {t : Tally} {s : σ}
  {steps : List Step} {r : Copied b}

/-- The tally counts what was handed out and what the target counted, also if copying failed. -/
theorem Copies.tally (h : Copies b job c k t s steps r) :
    r.tally = ⟨t.rowsRead + (handedOut steps).flatten.length, t.rowsWritten + counted steps⟩ := by
  induction h with
  | readFails | exhausted => simp [Step.handedOut?, Step.counted?]
  | unadaptable => simp [Step.handedOut?, Step.counted?, Tally.read]
  | writeFails => simp [Step.handedOut?, Step.counted?, Tally.read]
  | round _ _ _ _ _ ih =>
      rw [ih]
      simp [Step.handedOut?, Step.counted?, Tally.read, Tally.wrote, Nat.add_assoc]

/-- Copying that worked has staged the rows it wrote, which are those handed out, adapted. -/
theorem Copies.worked (h : Copies b job c k t s steps r) (hok : r.outcome = .ok ()) :
    staged steps = (written steps).map (.append job.writeTarget.table) ∧
      job.adapt (handedOut steps).flatten = .ok (written steps).flatten := by
  induction h with
  | readFails | unadaptable | writeFails => cases hok
  | exhausted => simp [Step.staged?, Step.written?, Step.handedOut?]
  | round _ _ hadapt _ _ ih =>
      obtain ⟨hstaged, hrest⟩ := ih hok
      have hall := Job.adapt_append hadapt hrest
      simpa [Step.staged?, Step.written?, Step.handedOut?, hstaged] using hall

/-! ## Filling -/

theorem Fills.tally (h : Fills b job c k s steps r) :
    r.tally = ⟨(handedOut steps).flatten.length, counted steps⟩ := by
  cases h with
  | merges _ rest => simpa using rest.tally
  | notEmptied => simp [Step.handedOut?, Step.counted?]
  | replaces _ _ rest => simpa [Step.handedOut?, Step.counted?] using rest.tally

theorem Fills.worked (h : Fills b job c k s steps r) (hok : r.outcome = .ok ()) :
    staged steps = filling job.plan.mode job.writeTarget.table (written steps) ∧
      job.adapt (handedOut steps).flatten = .ok (written steps).flatten := by
  cases h with
  | merges hmode rest => simpa [filling, hmode] using rest.worked hok
  | notEmptied => cases hok
  | replaces hmode _ rest =>
      obtain ⟨hstaged, hadapt⟩ := rest.worked hok
      simpa [filling, hmode, hstaged, Step.staged?, Step.handedOut?, Step.written?] using hadapt

end

/-! ## Moving a table -/

section
variable {σ : Type} {b : Backend σ} {job : Job} {s s' : σ} {steps : List Step}
  {outcome : Except MigrationError Unit} {t : Tally}

theorem Moves.tally (h : Moves b job s steps (outcome, t, s')) :
    t = ⟨(handedOut steps).flatten.length, counted steps⟩ := by
  cases h with
  | notOpened => rfl
  | notBegun => rfl
  | filled _ _ hfill => simpa [Step.handedOut?, Step.counted?] using hfill.tally
  | failed _ _ hfill => simpa [Step.handedOut?, Step.counted?] using hfill.tally

/-- Everything that was staged is published if moving the table worked, and otherwise nothing. -/
theorem Moves.published (P : Publication b) (h : Moves b job s steps (outcome, t, s')) :
    P.published s'
      = if outcome.isOk then (P.published s).applyAll (staged steps) else P.published s := by
  have hstored := h.stored P.stores
  rw [Memory.after_appending] at hstored
  exact hstored

theorem Moves.worked (h : Moves b job s steps (.ok (), t, s')) :
    staged steps = filling job.plan.mode job.writeTarget.table (written steps) ∧
      job.adapt (handedOut steps).flatten = .ok (written steps).flatten := by
  cases h with
  | filled _ _ hfill hdone =>
      simpa [Step.staged?, Step.handedOut?, Step.written?] using hfill.worked hdone

end

/-- A transfer publishes what it has staged if it commits that and this succeeds, and its report
    counts what was written just then. -/
theorem run_published {σ : Type} {b : Backend σ} (P : Publication b) (plan : Plan)
    (source target : Table) (batchSize : Nat) (s : σ) {steps : List Step}
    (hsteps : trace b plan source target batchSize s = steps) :
    P.published (run b plan source target batchSize s).2
        = (P.published s).applyAll (if did .commit steps then staged steps else []) ∧
      ((run b plan source target batchSize s).1.status = .succeeded ↔ did .commit steps) ∧
      (run b plan source target batchSize s).1.rowsWritten
        = if did .commit steps then counted steps else 0 := by
  rcases run_cases b plan source target batchSize s with
    ⟨e, hjob, htrace, hrun⟩ | ⟨job, outcome, t, s', hjob, hmoves, hrun⟩
  · rw [← hsteps, htrace, hrun]
    simp [report, TableReport.failed]
  · rw [hsteps] at hmoves
    have hreport := (hmoves.protocol hjob).reports
    have hpublished := hmoves.published P
    rw [hrun]
    refine ⟨?_, hreport, ?_⟩
    · rw [report_succeeded_iff] at hreport
      rw [hpublished]
      by_cases hdone : did .commit steps
      · rw [if_pos hdone, if_pos (hreport.2 hdone)]
      · rw [if_neg hdone, if_neg (mt hreport.1 hdone)]
        rfl
    · rw [report_succeeded_iff] at hreport
      cases outcome with
      | error e =>
          rw [if_neg (mt hreport.2 (by simp))]
          rfl
      | ok u =>
          rw [if_pos (hreport.1 rfl)]
          exact congrArg Tally.rowsWritten hmoves.tally

end Ferry.Transfer
