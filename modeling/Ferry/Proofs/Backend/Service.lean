import Ferry.Proofs.Backend.Storage
import Ferry.Proofs.Backend.Stream

set_option autoImplicit false

/-! # What the databases serve

The part of both databases that a migration reads and leaves alone: the catalogs, and the batches
that a cursor hands out for a request. `Serves` is the contract of a source of that kind, and
`Databases` puts it together with a target that keeps its tables in a storage. The databases in
memory are an instance, whatever faults are to come. -/

namespace Ferry

/-- What is served to a migration. -/
structure Service where
  /-- The catalog of a schema of the source. -/
  sourceCatalog : String → Catalog
  /-- The catalog of a schema of the target. -/
  targetCatalog : String → Catalog
  /-- The batches that a cursor for a request hands out; all behind them are empty. -/
  batches : ReadRequest → List (List Row)

/-- What a backend serves, and what a cursor has still to hand out. No call changes what is served;
    a read that fails may have used up anything. -/
structure Serves {σ : Type} (b : Backend σ) where
  service : σ → Service
  pending : b.Cursor → List (List Row)
  sourceCatalog {schema s o s'} : b.sourceCatalog schema s = (o, s') →
    service s' = service s ∧ ∀ c, o = .ok c → c = (service s).sourceCatalog schema
  targetCatalog {schema s o s'} : b.targetCatalog schema s = (o, s') →
    service s' = service s ∧ ∀ c, o = .ok c → c = (service s).targetCatalog schema
  openCursor {r s o s'} : b.openCursor r s = (o, s') →
    service s' = service s ∧ ∀ c, o = .ok c → pending c = (service s).batches r
  nextBatch {c s o c' s'} : b.nextBatch c s = (o, c', s') →
    service s' = service s ∧ ∀ rows, o = .ok rows →
      (pending c).head?.getD [] = rows ∧ pending c' = (pending c).tail
  closeCursor {c s o s'} : b.closeCursor c s = (o, s') → service s' = service s
  beginSession {s o s'} : b.beginSession s = (o, s') → service s' = service s
  truncate {schema table k s o k' s'} : b.truncate schema table k s = (o, k', s') →
    service s' = service s
  write {target rows k s o k' s'} : b.write target rows k s = (o, k', s') → service s' = service s
  commit {k s o s'} : b.commit k s = (o, s') → service s' = service s
  rollback {k s o s'} : b.rollback k s = (o, s') → service s' = service s

/-- Both databases: a source that serves, and a target that keeps its tables in a storage. -/
structure Databases {σ κ : Type} (b : Backend σ) (storage : Storage κ) where
  source : Serves b
  target : Stores b storage
  sourceCatalog {schema s o s'} : b.sourceCatalog schema s = (o, s') →
    target.content s' = target.content s
  targetCatalog {schema s o s'} : b.targetCatalog schema s = (o, s') →
    target.content s' = target.content s
  /-- The answer to a write follows from what its session sees of the table. -/
  counts {w rows k s n k' s'} : b.write w rows k s = (.ok n, k', s') →
    n = storage.count w rows (target.view k s w.table)

/-! ## The databases in memory -/

namespace Memory

/-- What the databases in memory serve. -/
def State.service (s : State) : Service := ⟨fun _ => s.source, fun _ => s.target, s.batchesFor⟩

variable {α : Type} {e : Event} {s s' : State} {o : Except MigrationError α}

@[simp] theorem State.record_service : (s.record e).2.service = s.service := by
  simp only [State.service, State.record_source, State.record_target, State.record_batchesFor]

theorem reading_service {answer : State → α} (h : reading e answer s = (o, s')) :
    s'.service = s.service ∧ ∀ a, o = .ok a → a = answer s' := by
  obtain ⟨rfl, rfl⟩ := reading_spec h
  refine ⟨State.record_service, fun a ha => ?_⟩
  obtain ⟨u, -, rfl⟩ := map_eq_ok_iff.1 ha
  rfl

theorem nextBatch_service {c c' : Cursor} {read : Except MigrationError (List Row)}
    (h : nextBatch c s = (read, c', s')) : s'.service = s.service := by
  obtain ⟨e, rfl, -⟩ := nextBatch_spec h
  exact State.record_service

theorem stage_service {change : Change} {answer : α} {k k' : Session}
    (h : stage e change answer k s = (o, k', s')) : s'.service = s.service := by
  rw [(stage_spec h).1]
  exact State.record_service

theorem commit_service {k : Session} {outcome : Except MigrationError Unit}
    (h : commit k s = (outcome, s')) : s'.service = s.service := by
  obtain ⟨e, -, rfl⟩ := commit_spec h
  have hservice := State.record_service (s := s) (e := e)
  split
  · exact hservice
  · exact hservice

/-- The databases in memory serve their catalogs and the batches of their source. -/
def serves : Serves backend where
  service := State.service
  pending := Cursor.batches
  sourceCatalog h := by
    obtain ⟨hsame, hanswer⟩ := reading_service h
    exact ⟨hsame, fun c hc => (hanswer c hc).trans (congrArg (·.sourceCatalog "") hsame)⟩
  targetCatalog h := by
    obtain ⟨hsame, hanswer⟩ := reading_service h
    exact ⟨hsame, fun c hc => (hanswer c hc).trans (congrArg (·.targetCatalog "") hsame)⟩
  openCursor h :=
    ⟨(reading_service h).1, fun c hc => by subst hc; exact openCursor_batches h⟩
  nextBatch h := by
    obtain ⟨hrest, hrows⟩ := nextBatch_batches h
    exact ⟨nextBatch_service h, fun rows hok => ⟨hrows rows hok, hrest⟩⟩
  closeCursor h := (reading_service h).1
  beginSession h := (reading_service h).1
  truncate := stage_service
  write := stage_service
  commit := commit_service
  rollback h := (reading_service h).1

/-- The databases in memory, with tables that only grow. -/
def databases : Databases backend appending where
  source := serves
  target := publication.stores
  sourceCatalog := reading_contents
  targetCatalog := reading_contents
  counts := write_answer

end Memory

end Ferry
