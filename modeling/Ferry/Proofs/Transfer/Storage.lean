import Ferry.Proofs.Backend.Service
import Ferry.Proofs.Transfer.Steps

set_option autoImplicit false

/-! # What a transfer reads and leaves

On databases that keep their contract a transfer reads the stream of its request, and it changes
the tables by what its session has staged, when that is committed, and not otherwise. The invariant
of the loop over the batches is that the tables are what they were, while the session makes of them
what the steps so far did. -/

namespace Ferry.Transfer

open Memory (stream)

variable {σ κ : Type} {b : Backend σ} {storage : Storage κ} {job : Job} {c : b.Cursor}
  {k : b.Session} {t : Tally} {s s' : σ} {steps : List Step} {r : Copied b}
  {outcome : Except MigrationError Unit}

/-! ## What is served stays -/

theorem Copies.service (S : Serves b) (h : Copies b job c k t s steps r) :
    S.service r.state = S.service s := by
  induction h with
  | readFails hread | exhausted hread | unadaptable hread => exact (S.nextBatch hread).1
  | writeFails hread _ _ hwrite => exact (S.write hwrite).trans (S.nextBatch hread).1
  | round hread _ _ hwrite _ ih => exact ih.trans ((S.write hwrite).trans (S.nextBatch hread).1)

theorem Fills.service (S : Serves b) (h : Fills b job c k s steps r) :
    S.service r.state = S.service s := by
  cases h with
  | merges _ rest => exact rest.service S
  | notEmptied _ hempty => exact S.truncate hempty
  | replaces _ hempty rest => exact (rest.service S).trans (S.truncate hempty)

theorem Moves.service (S : Serves b) (h : Moves b job s steps (outcome, t, s')) :
    S.service s' = S.service s := by
  cases h with
  | notOpened hopen => exact (S.openCursor hopen).1
  | notBegun hopen hbegin hclose =>
      rw [S.closeCursor hclose, S.beginSession hbegin, (S.openCursor hopen).1]
  | filled hopen hbegin hfill _ hclose hcommit =>
      rw [S.commit hcommit, S.closeCursor hclose, hfill.service S, S.beginSession hbegin,
        (S.openCursor hopen).1]
  | failed hopen hbegin hfill _ hclose hundo =>
      rw [S.rollback hundo, S.closeCursor hclose, hfill.service S, S.beginSession hbegin,
        (S.openCursor hopen).1]

/-! ## What is read -/

theorem Copies.reads_stream (S : Serves b) (h : Copies b job c k t s steps r) :
    handedOut steps <+: stream (S.pending c) ∧
      (r.outcome = .ok () → handedOut steps = stream (S.pending c)) := by
  induction h with
  | readFails => exact ⟨List.nil_prefix, fun hok => by cases hok⟩
  | exhausted hread =>
      have hempty := ((S.nextBatch hread).2 [] rfl).1
      rw [Memory.stream_of_empty hempty]
      exact ⟨List.prefix_rfl, fun _ => rfl⟩
  | unadaptable hread hrows =>
      have hfirst := ((S.nextBatch hread).2 _ rfl).1
      rw [Memory.stream_of_rows hfirst hrows]
      exact ⟨by simp [Step.handedOut?], fun hok => by cases hok⟩
  | writeFails hread hrows =>
      have hfirst := ((S.nextBatch hread).2 _ rfl).1
      rw [Memory.stream_of_rows hfirst hrows]
      exact ⟨by simp [Step.handedOut?], fun hok => by cases hok⟩
  | round hread hrows _ _ _ ih =>
      obtain ⟨hfirst, htail⟩ := (S.nextBatch hread).2 _ rfl
      rw [htail] at ih
      rw [Memory.stream_of_rows hfirst hrows]
      simpa [Step.handedOut?] using ih

theorem Fills.reads_stream (S : Serves b) (h : Fills b job c k s steps r) :
    handedOut steps <+: stream (S.pending c) ∧
      (r.outcome = .ok () → handedOut steps = stream (S.pending c)) := by
  cases h with
  | merges _ rest => exact rest.reads_stream S
  | notEmptied => exact ⟨by simp [Step.handedOut?], fun hok => by cases hok⟩
  | replaces _ _ rest => simpa [Step.handedOut?] using rest.reads_stream S

/-- A transfer reads the stream of its request up to where it fails, and all of it if it works. -/
theorem Moves.reads_stream (S : Serves b) (h : Moves b job s steps (outcome, t, s')) :
    handedOut steps <+: stream ((S.service s).batches job.request) ∧
      (outcome = .ok () → handedOut steps = stream ((S.service s).batches job.request)) := by
  cases h with
  | notOpened => exact ⟨by simp [Step.handedOut?], fun hok => by cases hok⟩
  | notBegun => exact ⟨by simp [Step.handedOut?], fun hok => by cases hok⟩
  | filled hopen _ hfill hdone =>
      have hread := hfill.reads_stream S
      rw [(S.openCursor hopen).2 _ rfl] at hread
      simpa [Step.handedOut?] using ⟨hread.1, fun _ => hread.2 hdone⟩
  | failed hopen _ hfill =>
      have hread := (hfill.reads_stream S).1
      rw [(S.openCursor hopen).2 _ rfl] at hread
      exact ⟨by simpa [Step.handedOut?] using hread, fun hok => by cases hok⟩

/-! ## What is left -/

theorem Copies.stored (T : Stores b storage) (h : Copies b job c k t s steps r) :
    T.content r.state = T.content s ∧
      (r.outcome = .ok () → ∀ a, T.staged r.session a = storage.after steps (T.staged k a)) := by
  induction h with
  | readFails hread => exact ⟨T.nextBatch hread, fun hok => by cases hok⟩
  | exhausted hread => exact ⟨T.nextBatch hread, fun _ _ => rfl⟩
  | unadaptable hread => exact ⟨T.nextBatch hread, fun hok => by cases hok⟩
  | writeFails hread _ _ hwrite =>
      exact ⟨(T.write hwrite).1.trans (T.nextBatch hread), fun hok => by cases hok⟩
  | round hread _ _ hwrite _ ih =>
      obtain ⟨hsame, hstaged⟩ := T.write hwrite
      refine ⟨ih.1.trans (hsame.trans (T.nextBatch hread)), fun hok a => ?_⟩
      rw [ih.2 hok, hstaged rfl]
      rfl

theorem Fills.stored (T : Stores b storage) (h : Fills b job c k s steps r) :
    T.content r.state = T.content s ∧
      (r.outcome = .ok () → ∀ a, T.staged r.session a = storage.after steps (T.staged k a)) := by
  cases h with
  | merges _ rest => exact rest.stored T
  | notEmptied _ hempty => exact ⟨(T.truncate hempty).1, fun hok => by cases hok⟩
  | replaces _ hempty rest =>
      obtain ⟨hsame, hstaged⟩ := T.truncate hempty
      obtain ⟨hrest, hchanges⟩ := rest.stored T
      refine ⟨hrest.trans hsame, fun hok a => ?_⟩
      rw [hchanges hok, hstaged rfl]
      rfl

/-! ## What is changed -/

theorem Copies.concerns (h : Copies b job c k t s steps r) :
    ∀ x ∈ steps, x.Concerns job.writeTarget := by
  induction h with
  | readFails | exhausted | unadaptable | writeFails => simp [Step.Concerns]
  | round _ _ _ _ _ ih => simpa [Step.Concerns] using ih

theorem Fills.concerns (h : Fills b job c k s steps r) :
    ∀ x ∈ steps, x.Concerns job.writeTarget := by
  cases h with
  | merges _ rest => exact rest.concerns
  | notEmptied => simp [Step.Concerns]
  | replaces _ _ rest => simpa [Step.Concerns] using rest.concerns

/-- Moving a table changes no other table. -/
theorem Moves.concerns (h : Moves b job s steps (outcome, t, s')) :
    ∀ x ∈ steps, x.Concerns job.writeTarget := by
  cases h with
  | notOpened | notBegun => simp [Step.Concerns]
  | filled _ _ hfill | failed _ _ hfill =>
      simpa [Step.Concerns, or_imp, forall_and] using hfill.concerns

/-! ## What is left -/

/-- Moving a table makes of the tables what its steps do if it works, and otherwise nothing. -/
theorem Moves.stored (T : Stores b storage) (h : Moves b job s steps (outcome, t, s')) :
    T.content s'
      = if outcome.isOk then storage.after steps (T.content s) else T.content s := by
  cases h with
  | notOpened hopen => exact T.openCursor hopen
  | notBegun hopen hbegin hclose =>
      rw [T.closeCursor hclose, (T.beginSession hbegin).1, T.openCursor hopen]
      rfl
  | filled hopen hbegin hfill hdone hclose hcommit =>
      -- The session began with nothing staged, so it makes of the tables what filling does.
      obtain ⟨hsame, hstaged⟩ := hfill.stored T
      obtain ⟨hbegun, hnone⟩ := T.beginSession hbegin
      have hbefore := (T.closeCursor hclose).trans (hsame.trans (hbegun.trans (T.openCursor hopen)))
      have hchanges := hstaged hdone (T.content s)
      rw [hnone _ rfl] at hchanges
      rw [T.commit hcommit, hbefore, hchanges]
      simp [Storage.effect]
  | failed hopen hbegin hfill hfail hclose hundo =>
      obtain ⟨hbegun, -⟩ := T.beginSession hbegin
      rw [T.rollback hundo, T.closeCursor hclose, (hfill.stored T).1, hbegun, T.openCursor hopen]
      rfl

end Ferry.Transfer
