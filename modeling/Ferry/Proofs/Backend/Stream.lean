import Ferry.Proofs.Backend.Calls
import Ferry.Proofs.Outcome
import Mathlib.Data.List.TakeWhile

set_option autoImplicit false

/-! # The stream of a cursor in memory

A cursor in memory gives the batches that were there for its request, one by one, and an empty batch
when there is none left. What can be had from it is therefore the batches up to the first empty one,
whether that was among them or not: its stream. -/

namespace Ferry.Memory

/-- The batches up to the first empty one, and that one. -/
def stream (batches : List (List Row)) : List (List Row) := batches.takeWhile (· ≠ []) ++ [[]]

section
variable {batches : List (List Row)} {rows : List Row}

theorem stream_of_empty (h : batches.head?.getD [] = []) : stream batches = [[]] := by
  cases batches with
  | nil => rfl
  | cons first rest =>
      have hfirst : first = [] := h
      simp [stream, hfirst]

theorem stream_of_rows (h : batches.head?.getD [] = rows) (hrows : rows ≠ []) :
    stream batches = rows :: stream batches.tail := by
  cases batches with
  | nil => exact absurd h.symm hrows
  | cons first rest =>
      have hfirst : first = rows := h
      subst hfirst
      simp [stream, hrows]

theorem stream_of_forall_ne_nil (h : ∀ rows ∈ batches, rows ≠ []) :
    stream batches = batches ++ [[]] := by
  rw [stream, List.takeWhile_eq_self_iff.2]
  intro rows hrows
  exact decide_eq_true (h rows hrows)

end

/-! ## Batches of a size -/

section
variable {α : Type} {size : Nat} {xs ys : List α}

theorem chunks_flatten : (chunks size xs).flatten = xs := by
  induction xs using chunks.induct size with
  | case1 => simp [chunks]
  | case2 xs hne ih =>
      rw [chunks, dif_neg hne, List.flatten_cons, ih, List.take_append_drop]

theorem ne_nil_of_mem_chunks (h : ys ∈ chunks size xs) : ys ≠ [] := by
  induction xs using chunks.induct size with
  | case1 => simp [chunks] at h
  | case2 xs hne ih =>
      rw [chunks, dif_neg hne, List.mem_cons] at h
      rcases h with rfl | h
      · simpa using hne
      · exact ih h

theorem length_le_of_mem_chunks (h : ys ∈ chunks size xs) : ys.length ≤ size + 1 := by
  induction xs using chunks.induct size with
  | case1 => simp [chunks] at h
  | case2 xs hne ih =>
      rw [chunks, dif_neg hne, List.mem_cons] at h
      rcases h with rfl | h
      · exact List.length_take_le _ _
      · exact ih h

theorem stream_chunks (size : Nat) (rows : List Row) :
    stream (chunks size rows) = chunks size rows ++ [[]] :=
  stream_of_forall_ne_nil (fun _ h => ne_nil_of_mem_chunks h)

end

/-! ## What calls answer -/

section
variable {s s' : State}

theorem openCursor_batches {r : ReadRequest} {c : Cursor}
    (h : backend.openCursor r s = (.ok c, s')) : c.batches = s.batchesFor r := by
  obtain ⟨rfl, hopen⟩ := reading_spec h
  obtain ⟨u, -, rfl⟩ := map_eq_ok_iff.1 hopen.symm
  exact congrFun State.record_batchesFor r

theorem nextBatch_batches {c c' : Cursor} {read : Except MigrationError (List Row)}
    (h : nextBatch c s = (read, c', s')) :
    c'.batches = c.batches.tail ∧ ∀ rows, read = .ok rows → c.batches.head?.getD [] = rows := by
  obtain ⟨e, -, hrest, hread⟩ := nextBatch_spec h
  refine ⟨hrest, fun rows hrows => ?_⟩
  obtain ⟨u, -, hsame⟩ := map_eq_ok_iff.1 (hread.symm.trans hrows)
  exact hsame

/-- A write is answered with the number of its rows. -/
theorem write_answer {target : WriteTarget} {rows : List Row} {k k' : Session} {n : Nat}
    (h : stage (.write target rows) (.append target.table rows) rows.length k s = (.ok n, k', s')) :
    n = rows.length := by
  obtain ⟨u, -, rfl⟩ := map_eq_ok_iff.1 (stage_spec h).2.1.symm
  rfl

end

end Ferry.Memory
