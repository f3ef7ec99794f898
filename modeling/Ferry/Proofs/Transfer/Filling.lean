import Ferry.Proofs.Transfer.Batching

set_option autoImplicit false

/-! # What a transfer puts into its table

A transfer that works puts the rows of the stream of its request, adapted, into its table: behind
what was there or in place of it. How the rows were cut into batches makes no difference where the
storage takes them one by one. Whether a transfer works hangs on its calls and on whether all the
rows can be adapted. -/

namespace Ferry

open Memory (stream)

namespace Transfer

variable {σ κ : Type} {b : Backend σ} {storage : Storage κ} {job : Job} {c : b.Cursor}
  {k : b.Session} {t : Tally} {s s' : σ} {steps : List Step} {r : Copied b}
  {outcome : Except MigrationError Unit} {tables : String → κ}

/-- A table after a job has put rows into it. -/
def Job.fill (storage : Storage κ) (job : Job) (rows : List Row) (content : κ) : κ :=
  storage.put job.writeTarget rows
    (match job.plan.mode with
     | .merge => content
     | .replace => storage.empty)

/-- Copying puts all rows that it writes into the table. -/
theorem Copies.after (hstorage : storage.RowWise) (h : Copies b job c k t s steps r)
    (hok : r.outcome = .ok ()) :
    storage.after steps tables job.writeTarget.table
      = storage.put job.writeTarget (written steps).flatten (tables job.writeTarget.table) := by
  induction h generalizing tables with
  | readFails | unadaptable | writeFails => cases hok
  | exhausted => exact hstorage.nil.symm
  | round _ _ _ _ _ ih =>
      simp only [Storage.after_cons, written_cons, Step.written?, Option.toList_some,
        Option.toList_none, List.nil_append, List.singleton_append, List.flatten_cons]
      rw [ih hok, hstorage.append]
      congr 1
      exact Storage.write_self

theorem Fills.after (tables : String → κ) (hstorage : storage.RowWise)
    (h : Fills b job c k s steps r) (hok : r.outcome = .ok ()) :
    storage.after steps tables job.writeTarget.table
      = job.fill storage (written steps).flatten (tables job.writeTarget.table) := by
  cases h with
  | merges hmode rest => simpa only [Job.fill, hmode] using rest.after hstorage hok
  | notEmptied => cases hok
  | replaces hmode _ rest =>
      simp only [Job.fill, hmode, Storage.after_cons, written_cons, Step.written?,
        Option.toList_none, List.nil_append]
      rw [rest.after hstorage hok]
      congr 1
      exact Storage.clear_self

/-- A transfer that works puts the rows of its stream into the table, adapted. -/
theorem Moves.fills (D : Databases b storage) (hstorage : storage.RowWise)
    (h : Moves b job s steps (.ok (), t, s')) :
    job.adapt (stream ((D.source.service s).batches job.request)).flatten
        = .ok (written steps).flatten ∧
      D.target.content s' job.writeTarget.table
        = job.fill storage (written steps).flatten (D.target.content s job.writeTarget.table) := by
  have hread := (h.reads_stream D.source).2 rfl
  have hadapt := h.worked.2
  rw [hread] at hadapt
  refine ⟨hadapt, ?_⟩
  rw [h.stored D.target, isOk_ok, if_pos rfl]
  cases h with
  | filled _ _ hfill hdone =>
      have hafter := hfill.after (D.target.content s) hstorage hdone
      simpa [Storage.effect, Step.written?] using hafter

/-- A transfer in which no call fails works if the rows of its stream can be adapted. -/
theorem Moves.ok_of_adapt (S : Serves b) (h : Moves b job s steps (outcome, t, s'))
    (hcalls : ∀ x ∈ steps, x.succeeded) {rows : List Row}
    (hadapt : job.adapt (stream ((S.service s).batches job.request)).flatten = .ok rows) :
    outcome = .ok () := by
  refine h.ok_of_succeeded hcalls (fun batch hbatch => Job.exists_adapt (fun row hrow => ?_))
  have hmem := (h.reads_stream S).1.subset hbatch
  obtain ⟨w, -, hw⟩ := exists_mem_of_forall₂ (Job.adapt_eq_ok_iff.1 hadapt).flip
    (List.mem_flatten_of_mem hmem hrow)
  exact ⟨w, hw⟩

end Transfer

end Ferry
