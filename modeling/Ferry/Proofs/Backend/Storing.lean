import Ferry.Proofs.Backend.Service

set_option autoImplicit false

/-! # A target beside a backend

Any backend can be given another target: `Backend.storing` is a backend whose calls end as those of
the given one, with its faults and its requests to stop, and whose target keeps its tables in a
storage. What is staged is held by the session and comes to the tables when it is committed. It
serves what the given backend serves. -/

namespace Ferry

variable {σ τ α η κ : Type}

/-! ## Calls beside -/

/-- A call beside something that it does not touch. -/
def Call.beside (call : Call σ α) : Call (σ × τ) α := fun s => ((call s.1).1, (call s.1).2, s.2)

/-- A call on a handle beside something that it does not touch. -/
def HandleCall.beside (call : HandleCall η σ α) : HandleCall η (σ × τ) α := fun x s =>
  ((call x s.1).1, (call x s.1).2.1, (call x s.1).2.2, s.2)

theorem Call.beside_eq {call : Call σ α} {s s' : σ × τ} {o : Except MigrationError α}
    (h : Call.beside call s = (o, s')) : call s.1 = (o, s'.1) ∧ s'.2 = s.2 := by
  cases h
  exact ⟨rfl, rfl⟩

theorem HandleCall.beside_eq {call : HandleCall η σ α} {x x' : η} {s s' : σ × τ}
    {o : Except MigrationError α} (h : HandleCall.beside call x s = (o, x', s')) :
    call x s.1 = (o, x', s'.1) ∧ s'.2 = s.2 := by
  cases h
  exact ⟨rfl, rfl⟩

/-! ## The backend -/

/-- The backend with a target that keeps its tables in a storage. -/
def Backend.storing (b : Backend σ) (storage : Storage κ) : Backend (σ × (String → κ)) where
  Cursor := b.Cursor
  Session := b.Session × ((String → κ) → String → κ)
  sourceCatalog schema := Call.beside (b.sourceCatalog schema)
  targetCatalog schema := Call.beside (b.targetCatalog schema)
  openCursor r := Call.beside (b.openCursor r)
  nextBatch := HandleCall.beside b.nextBatch
  closeCursor c := Call.beside (b.closeCursor c)
  beginSession s :=
    let (o, s') := b.beginSession s.1
    (o.map (·, id), s', s.2)
  truncate schema table k s :=
    let (o, k', s') := b.truncate schema table k.1 s.1
    (o, (k', if o.isOk then storage.clear table ∘ k.2 else k.2), s', s.2)
  write w rows k s :=
    let (o, k', s') := b.write w rows k.1 s.1
    (o.map (fun _ => storage.count w rows (k.2 s.2 w.table)),
      (k', if o.isOk then storage.write w rows ∘ k.2 else k.2), s', s.2)
  commit k s :=
    let (o, s') := b.commit k.1 s.1
    (o, s', if o.isOk then k.2 s.2 else s.2)
  rollback k := Call.beside (b.rollback k.1)
  countSource schema table := Call.beside (b.countSource schema table)
  countTarget schema table := Call.beside (b.countTarget schema table)
  stopRequested s := b.stopRequested s.1
  probe? := b.probe?.map (fun probe s => ((probe s.1).1, (probe s.1).2, s.2))
  close s := (b.close s.1, s.2)
  remaining := b.remaining
  remaining_lt c s rows c' s' h hr := by
    exact b.remaining_lt c s.1 rows c' s'.1 (HandleCall.beside_eq h).1 hr

/-- It serves what the backend serves, and keeps the contract of its storage. -/
def Serves.storing {b : Backend σ} (S : Serves b) (storage : Storage κ) :
    Databases (b.storing storage) storage where
  source :=
    { service := fun s => S.service s.1
      pending := S.pending
      sourceCatalog := fun h => S.sourceCatalog (Call.beside_eq h).1
      targetCatalog := fun h => S.targetCatalog (Call.beside_eq h).1
      openCursor := fun h => S.openCursor (Call.beside_eq h).1
      nextBatch := fun h => S.nextBatch (HandleCall.beside_eq h).1
      closeCursor := fun h => S.closeCursor (Call.beside_eq h).1
      beginSession := fun h => by
        cases h
        exact S.beginSession rfl
      truncate := fun h => by
        cases h
        exact S.truncate rfl
      write := fun h => by
        cases h
        exact S.write rfl
      commit := fun h => by
        cases h
        exact S.commit rfl
      rollback := fun h => S.rollback (Call.beside_eq h).1 }
  target :=
    { content := fun s => s.2
      staged := fun k => k.2
      openCursor := fun h => (Call.beside_eq h).2
      nextBatch := fun h => (HandleCall.beside_eq h).2
      closeCursor := fun h => (Call.beside_eq h).2
      beginSession := fun {s} o s' h => by
        rcases hcall : b.beginSession s.1 with ⟨e | k, s''⟩
        all_goals
          simp only [Backend.storing, hcall, Except.map] at h
          cases h
        · exact ⟨rfl, fun k hk => by cases hk⟩
        · refine ⟨rfl, fun k hk => ?_⟩
          cases hk
          rfl
      truncate := fun h => by
        cases h
        exact ⟨rfl, fun hok => if_pos hok⟩
      write := fun {w rows k s} o k' s' h => by
        rcases hcall : b.write w rows k.1 s.1 with ⟨e | n, k'', s''⟩
        all_goals
          simp only [Backend.storing, hcall, Except.map] at h
          cases h
        · exact ⟨rfl, fun hok => by cases hok⟩
        · exact ⟨rfl, fun _ => rfl⟩
      commit := fun h => by
        cases h
        rfl
      rollback := fun h => (Call.beside_eq h).2 }
  sourceCatalog h := (Call.beside_eq h).2
  targetCatalog h := (Call.beside_eq h).2
  counts {w rows k s n k' s'} h := by
    rcases hcall : b.write w rows k.1 s.1 with ⟨e | m, k'', s''⟩
    all_goals
      simp only [Backend.storing, hcall, Except.map] at h
      cases h
    rfl

end Ferry
