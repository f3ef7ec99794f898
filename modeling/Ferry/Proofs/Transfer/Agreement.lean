import Ferry.Proofs.Transfer.Storage

set_option autoImplicit false

/-! # Transfers that agree

One job on two pairs of databases that need not be of one kind. If the cursors are handed the same
batches, the target table holds the same on both sides, and every call ends on one side as it does
on the other, then the two transfers make the same calls with the same answers and come to the same.
What a call is answered is not among the assumptions: it follows from what is served and from what
the session sees of the table, and that the two stay equal is the invariant of the loop. -/

namespace Ferry

/-! ## How calls end -/

/-- How a call ended, whatever it was answered. -/
def Step.outcome : Step → Except MigrationError Unit
  | sourceCatalog _ o | targetCatalog _ o => withoutAnswer o
  | openCursor _ o | closeCursor o | beginSession o => o
  | nextBatch o => withoutAnswer o
  | truncate _ _ o | commit o | rollback o => o
  | write _ _ o => withoutAnswer o
  | countSource _ _ o | countTarget _ _ o => withoutAnswer o

/-- Two lists of calls end alike, as far as both go. -/
def Alike (xs ys : List Step) : Prop :=
  xs.map Step.outcome <+: ys.map Step.outcome ∨ ys.map Step.outcome <+: xs.map Step.outcome

namespace Alike

variable {x y : Step} {xs ys zs : List Step}

theorem head (h : Alike (x :: xs) (y :: ys)) : x.outcome = y.outcome := by
  rcases h with h | h
  · exact (List.cons_prefix_cons.1 h).1
  · exact (List.cons_prefix_cons.1 h).1.symm

theorem tail (h : Alike (x :: xs) (y :: ys)) : Alike xs ys := by
  rcases h with h | h
  · exact .inl (List.cons_prefix_cons.1 h).2
  · exact .inr (List.cons_prefix_cons.1 h).2

theorem append_left (h : Alike (xs ++ ys) (xs ++ zs)) : Alike ys zs := by
  induction xs with
  | nil => exact h
  | cons x rest ih => exact ih h.tail

end Alike

/-! ## One call on both sides -/

section
variable {σ₁ σ₂ κ : Type} {b₁ : Backend σ₁} {b₂ : Backend σ₂} {s₁ s₁' : σ₁} {s₂ s₂' : σ₂}

/-- Cursors that have the same batches to hand out hand out the same. -/
theorem Serves.agree (S₁ : Serves b₁) (S₂ : Serves b₂) {c₁ c₁' : b₁.Cursor} {c₂ c₂' : b₂.Cursor}
    {o₁ o₂ : Except MigrationError (List Row)} (h₁ : b₁.nextBatch c₁ s₁ = (o₁, c₁', s₁'))
    (h₂ : b₂.nextBatch c₂ s₂ = (o₂, c₂', s₂')) (hpending : S₁.pending c₁ = S₂.pending c₂)
    (halike : withoutAnswer o₁ = withoutAnswer o₂) :
    o₁ = o₂ ∧ (o₁.isOk → S₁.pending c₁' = S₂.pending c₂') := by
  cases o₁ with
  | error e =>
      cases o₂ with
      | error e' => exact ⟨by cases halike; rfl, fun hok => by cases hok⟩
      | ok rows' => cases halike
  | ok rows =>
      cases o₂ with
      | error e' => cases halike
      | ok rows' =>
          obtain ⟨hrows, hrest⟩ := (S₁.nextBatch h₁).2 rows rfl
          obtain ⟨hrows', hrest'⟩ := (S₂.nextBatch h₂).2 rows' rfl
          rw [← hrows, ← hrows', hrest, hrest', hpending]
          exact ⟨rfl, fun _ => rfl⟩

/-- Sessions that see the same of a table are answered the same, and see the same after it. -/
theorem Databases.agree {storage : Storage κ} (D₁ : Databases b₁ storage)
    (D₂ : Databases b₂ storage) {w : WriteTarget} {rows : List Row} {k₁ k₁' : b₁.Session}
    {k₂ k₂' : b₂.Session} {o₁ o₂ : Except MigrationError Nat}
    (h₁ : b₁.write w rows k₁ s₁ = (o₁, k₁', s₁')) (h₂ : b₂.write w rows k₂ s₂ = (o₂, k₂', s₂'))
    (hview : D₁.target.view k₁ s₁ w.table = D₂.target.view k₂ s₂ w.table)
    (halike : withoutAnswer o₁ = withoutAnswer o₂) :
    o₁ = o₂ ∧
      (o₁.isOk → D₁.target.view k₁' s₁' w.table = D₂.target.view k₂' s₂' w.table) := by
  cases o₁ with
  | error e =>
      cases o₂ with
      | error e' => exact ⟨by cases halike; rfl, fun hok => by cases hok⟩
      | ok n' => cases halike
  | ok n =>
      cases o₂ with
      | error e' => cases halike
      | ok n' =>
          rw [D₁.target.view_written h₁, D₂.target.view_written h₂, Storage.write_self,
            Storage.write_self, D₁.counts h₁, D₂.counts h₂, hview]
          exact ⟨rfl, fun _ => rfl⟩

end

namespace Transfer

variable {σ₁ σ₂ κ : Type} {b₁ : Backend σ₁} {b₂ : Backend σ₂} {storage : Storage κ} {job : Job}
  {s₁ : σ₁} {s₂ : σ₂} {steps₁ steps₂ : List Step}

/-! ## One transfer on both sides -/

section
variable {c₁ : b₁.Cursor} {c₂ : b₂.Cursor} {k₁ : b₁.Session} {k₂ : b₂.Session} {r₁ : Copied b₁}
  {r₂ : Copied b₂} {t : Tally} {tail₁ tail₂ : List Step}

/-- What one side reads, the other side reads as well. -/
theorem Copies.reads_same (D₁ : Databases b₁ storage) (D₂ : Databases b₂ storage)
    {o : Except MigrationError (List Row)} {c₁' : b₁.Cursor} {s₁' : σ₁}
    (hread : b₁.nextBatch c₁ s₁ = (o, c₁', s₁')) (h₂ : Copies b₂ job c₂ k₂ t s₂ steps₂ r₂)
    (hpending : D₁.source.pending c₁ = D₂.source.pending c₂)
    (halike : Alike (.nextBatch o :: tail₁) (steps₂ ++ tail₂)) :
    ∃ c₂' s₂', b₂.nextBatch c₂ s₂ = (o, c₂', s₂') ∧
      (o.isOk → D₁.source.pending c₁' = D₂.source.pending c₂') := by
  obtain ⟨o', c₂', s₂', more, hread', rfl⟩ := h₂.reads
  obtain ⟨rfl, hrest⟩ := D₁.source.agree D₂.source hread hread' hpending halike.head
  exact ⟨c₂', s₂', hread', hrest⟩

theorem Copies.agree (D₁ : Databases b₁ storage) (D₂ : Databases b₂ storage)
    (h₁ : Copies b₁ job c₁ k₁ t s₁ steps₁ r₁) (h₂ : Copies b₂ job c₂ k₂ t s₂ steps₂ r₂)
    (hpending : D₁.source.pending c₁ = D₂.source.pending c₂)
    (hview : D₁.target.view k₁ s₁ job.writeTarget.table
      = D₂.target.view k₂ s₂ job.writeTarget.table)
    (halike : Alike (steps₁ ++ tail₁) (steps₂ ++ tail₂)) :
    steps₁ = steps₂ ∧ r₁.outcome = r₂.outcome ∧ r₁.tally = r₂.tally := by
  induction h₁ generalizing c₂ k₂ s₂ steps₂ r₂ with
  | readFails hread | exhausted hread =>
      have hinv := h₂.inv
      obtain ⟨c, s, hread', -⟩ := h₂.reads_same D₁ D₂ hread hpending halike
      rw [hread'] at hinv
      obtain ⟨hsteps, rfl⟩ := hinv
      exact ⟨hsteps.symm, rfl, rfl⟩
  | unadaptable hread hrows hadapt =>
      have hinv := h₂.inv
      obtain ⟨c, s, hread', -⟩ := h₂.reads_same D₁ D₂ hread hpending halike
      simp only [hread', if_neg hrows, hadapt] at hinv
      obtain ⟨hsteps, rfl⟩ := hinv
      exact ⟨hsteps.symm, rfl, rfl⟩
  | @writeFails _ _ _ _ _ _ _ _ _ adapted _ hread hrows hadapt hwrite =>
      have hinv := h₂.inv
      obtain ⟨c, s, hread', -⟩ := h₂.reads_same D₁ D₂ hread hpending halike
      simp only [hread', if_neg hrows, hadapt] at hinv
      rw [← D₁.target.view_read hread, ← D₂.target.view_read hread'] at hview
      rcases hwrite' : b₂.write job.writeTarget adapted k₂ s with ⟨e | n, k, s'⟩
      all_goals
        rw [hwrite'] at hinv
      · obtain ⟨hsteps, rfl⟩ := hinv
        rw [hsteps] at halike
        cases (D₁.agree D₂ hwrite hwrite' hview halike.tail.head).1
        exact ⟨hsteps.symm, rfl, rfl⟩
      · obtain ⟨more, hsteps, -⟩ := hinv
        rw [hsteps] at halike
        cases halike.tail.head
  | @round _ _ _ _ _ _ _ _ _ adapted _ _ _ hread hrows hadapt hwrite rest ih =>
      have hinv := h₂.inv
      obtain ⟨c, s, hread', hpending⟩ := h₂.reads_same D₁ D₂ hread hpending halike
      simp only [hread', if_neg hrows, hadapt] at hinv
      rw [← D₁.target.view_read hread, ← D₂.target.view_read hread'] at hview
      rcases hwrite' : b₂.write job.writeTarget adapted k₂ s with ⟨e | n, k, s'⟩
      all_goals
        rw [hwrite'] at hinv
      · obtain ⟨hsteps, -⟩ := hinv
        rw [hsteps] at halike
        cases halike.tail.head
      · obtain ⟨more, hsteps, rest'⟩ := hinv
        rw [hsteps] at halike ⊢
        obtain ⟨hanswer, hview⟩ := D₁.agree D₂ hwrite hwrite' hview halike.tail.head
        cases hanswer
        obtain ⟨hmore, houtcome⟩ := ih rest' (hpending rfl) (hview rfl) halike.tail.tail
        exact ⟨by rw [hmore], houtcome⟩

theorem Fills.agree (D₁ : Databases b₁ storage) (D₂ : Databases b₂ storage)
    (h₁ : Fills b₁ job c₁ k₁ s₁ steps₁ r₁) (h₂ : Fills b₂ job c₂ k₂ s₂ steps₂ r₂)
    (hpending : D₁.source.pending c₁ = D₂.source.pending c₂)
    (hview : D₁.target.view k₁ s₁ job.writeTarget.table
      = D₂.target.view k₂ s₂ job.writeTarget.table)
    (halike : Alike (steps₁ ++ tail₁) (steps₂ ++ tail₂)) :
    steps₁ = steps₂ ∧ r₁.outcome = r₂.outcome ∧ r₁.tally = r₂.tally := by
  cases h₁ with
  | merges hmode rest =>
      cases h₂ with
      | merges hmode' rest' => exact rest.agree D₁ D₂ rest' hpending hview halike
      | notEmptied hmode' | replaces hmode' =>
          rw [hmode] at hmode'
          cases hmode'
  | notEmptied hmode hempty =>
      cases h₂ with
      | merges hmode' =>
          rw [hmode] at hmode'
          cases hmode'
      | notEmptied hmode' hempty' =>
          cases halike.head
          exact ⟨rfl, rfl, rfl⟩
      | replaces hmode' hempty' => cases halike.head
  | replaces hmode hempty rest =>
      cases h₂ with
      | merges hmode' =>
          rw [hmode] at hmode'
          cases hmode'
      | notEmptied hmode' hempty' => cases halike.head
      | replaces hmode' hempty' rest' =>
          obtain ⟨hsteps, hrest⟩ := rest.agree D₁ D₂ rest' hpending
            (by rw [D₁.target.view_emptied hempty, D₂.target.view_emptied hempty',
              Storage.clear_self, Storage.clear_self]) halike.tail
          exact ⟨by rw [hsteps], hrest⟩

/-- Filling begins on both sides with what is served and with what the table holds. -/
theorem Fills.agree_begun (D₁ : Databases b₁ storage) (D₂ : Databases b₂ storage) {u₁ v₁ : σ₁}
    {u₂ v₂ : σ₂} (hopen₁ : b₁.openCursor job.request s₁ = (.ok c₁, u₁))
    (hopen₂ : b₂.openCursor job.request s₂ = (.ok c₂, u₂))
    (hbegin₁ : b₁.beginSession u₁ = (.ok k₁, v₁)) (hbegin₂ : b₂.beginSession u₂ = (.ok k₂, v₂))
    (h₁ : Fills b₁ job c₁ k₁ v₁ steps₁ r₁) (h₂ : Fills b₂ job c₂ k₂ v₂ steps₂ r₂)
    (hbatches : (D₁.source.service s₁).batches job.request
      = (D₂.source.service s₂).batches job.request)
    (hcontent : D₁.target.content s₁ job.writeTarget.table
      = D₂.target.content s₂ job.writeTarget.table)
    (halike : Alike (steps₁ ++ tail₁) (steps₂ ++ tail₂)) :
    steps₁ = steps₂ ∧ r₁.outcome = r₂.outcome ∧ r₁.tally = r₂.tally := by
  refine h₁.agree D₁ D₂ h₂ ?_ ?_ halike
  · rw [(D₁.source.openCursor hopen₁).2 c₁ rfl, (D₂.source.openCursor hopen₂).2 c₂ rfl, hbatches]
  · rw [D₁.target.view_begun hbegin₁, D₂.target.view_begun hbegin₂, D₁.target.openCursor hopen₁,
      D₂.target.openCursor hopen₂, hcontent]

end

section
variable {s₁' : σ₁} {s₂' : σ₂} {o₁ o₂ : Except MigrationError Unit} {t₁ t₂ : Tally}

/-- One job makes the same calls on both sides and comes to the same. -/
theorem Moves.agree (D₁ : Databases b₁ storage) (D₂ : Databases b₂ storage)
    (h₁ : Moves b₁ job s₁ steps₁ (o₁, t₁, s₁')) (h₂ : Moves b₂ job s₂ steps₂ (o₂, t₂, s₂'))
    (hbatches : (D₁.source.service s₁).batches job.request
      = (D₂.source.service s₂).batches job.request)
    (hcontent : D₁.target.content s₁ job.writeTarget.table
      = D₂.target.content s₂ job.writeTarget.table)
    (halike : Alike steps₁ steps₂) :
    steps₁ = steps₂ ∧ o₁ = o₂ ∧ t₁ = t₂ := by
  cases h₁ with
  | notOpened =>
      cases h₂ with
      | notOpened =>
          cases halike.head
          exact ⟨rfl, rfl, rfl⟩
      | notBegun | filled | failed => cases halike.head
  | notBegun =>
      cases h₂ with
      | notOpened => cases halike.head
      | notBegun =>
          cases halike.tail.head
          cases halike.tail.tail.head
          exact ⟨rfl, rfl, rfl⟩
      | filled | failed => cases halike.tail.head
  | filled hopen hbegin hfill hdone =>
      simp only [List.append_assoc] at halike
      cases h₂ with
      | notOpened => cases halike.head
      | notBegun => cases halike.tail.head
      | filled hopen' hbegin' hfill' =>
          simp only [List.append_assoc] at halike
          obtain ⟨rfl, -, htally⟩ := hfill.agree_begun D₁ D₂ hopen hopen' hbegin hbegin' hfill'
            hbatches hcontent halike.append_left
          have hends := halike.append_left.append_left
          cases hends.head
          cases hends.tail.head
          exact ⟨rfl, rfl, htally⟩
      | failed hopen' hbegin' hfill' hfail =>
          simp only [List.append_assoc] at halike
          obtain ⟨-, houtcome, -⟩ := hfill.agree_begun D₁ D₂ hopen hopen' hbegin hbegin' hfill'
            hbatches hcontent halike.append_left
          cases hdone.symm.trans (houtcome.trans hfail)
  | failed hopen hbegin hfill hfail =>
      simp only [List.append_assoc] at halike
      cases h₂ with
      | notOpened => cases halike.head
      | notBegun => cases halike.tail.head
      | filled hopen' hbegin' hfill' hdone =>
          simp only [List.append_assoc] at halike
          obtain ⟨-, houtcome, -⟩ := hfill.agree_begun D₁ D₂ hopen hopen' hbegin hbegin' hfill'
            hbatches hcontent halike.append_left
          cases hfail.symm.trans (houtcome.trans hdone)
      | failed hopen' hbegin' hfill' hfail' =>
          simp only [List.append_assoc] at halike
          obtain ⟨rfl, houtcome, htally⟩ := hfill.agree_begun D₁ D₂ hopen hopen' hbegin hbegin'
            hfill' hbatches hcontent halike.append_left
          have hends := halike.append_left.append_left
          cases hends.head
          cases hends.tail.head
          cases hfail.symm.trans (houtcome.trans hfail')
          exact ⟨rfl, rfl, htally⟩

/-- It leaves the same in its table. -/
theorem Moves.agree_content (D₁ : Databases b₁ storage) (D₂ : Databases b₂ storage)
    (h₁ : Moves b₁ job s₁ steps₁ (o₁, t₁, s₁')) (h₂ : Moves b₂ job s₂ steps₂ (o₂, t₂, s₂'))
    (hsteps : steps₁ = steps₂) (houtcome : o₁ = o₂)
    (hcontent : D₁.target.content s₁ job.writeTarget.table
      = D₂.target.content s₂ job.writeTarget.table) :
    D₁.target.content s₁' job.writeTarget.table
      = D₂.target.content s₂' job.writeTarget.table := by
  subst hsteps houtcome
  rw [h₁.stored D₁.target, h₂.stored D₂.target]
  by_cases hok : o₁.isOk
  · rw [if_pos hok, if_pos hok]
    exact Storage.after_congr hcontent
  · rw [if_neg hok, if_neg hok]
    exact hcontent

end

end Transfer

end Ferry
