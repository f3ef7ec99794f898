import Ferry.Postgres.Rows
import Ferry.Run

set_option autoImplicit false

/-! # Both sites of a migration

A pool for the source and a pool for the target, with the server behind them, as a backend. -/

namespace Ferry.Postgres

/-- The pools of both sides. -/
structure Sites where
  server : Server
  source : Pool
  target : Pool
  /-- The number of cursors named so far. -/
  cursors : Nat
  /-- Whether the run has been asked to stop. -/
  stop : Bool
deriving Inhabited

namespace Sites

/-- The sites as the source alone sees them. -/
def sourceClient (s : Sites) : Client := ⟨s.server, s.source, s.cursors⟩

/-- The sites as the target alone sees them. -/
def targetClient (s : Sites) : Client := ⟨s.server, s.target, s.cursors⟩

/-- The sites after the source has been used. -/
def withSource (s : Sites) (k : Client) : Sites :=
  { s with server := k.server, source := k.pool, cursors := k.cursors }

/-- The sites after the target has been used. -/
def withTarget (s : Sites) (k : Client) : Sites :=
  { s with server := k.server, target := k.pool, cursors := k.cursors }

/-- A call at the source. -/
def atSource {α : Type} (call : Call Client α) : Call Sites α := fun s =>
  let (outcome, k) := call s.sourceClient
  (outcome, s.withSource k)

/-- A call at the target. -/
def atTarget {α : Type} (call : Call Client α) : Call Sites α := fun s =>
  let (outcome, k) := call s.targetClient
  (outcome, s.withTarget k)

/-- A call on a handle of the source. -/
def handleAtSource {η α : Type} (call : HandleCall η Client α) : HandleCall η Sites α :=
  fun handle s =>
    let (outcome, handle, k) := call handle s.sourceClient
    (outcome, handle, s.withSource k)

/-- A call on a handle of the target. -/
def handleAtTarget {η α : Type} (call : HandleCall η Client α) : HandleCall η Sites α :=
  fun handle s =>
    let (outcome, handle, k) := call handle s.targetClient
    (outcome, handle, s.withTarget k)

/-- Probe the source, then the target. -/
def probeBoth (s : Sites) : (Probe × Probe) × Sites :=
  let (source, k) := s.sourceClient.probe
  let s := s.withSource k
  let (target, k) := s.targetClient.probe
  ((source, target), s.withTarget k)

theorem handleAtSource_lt (cursor : Cursor) (s : Sites) (rows : List Row) (cursor' : Cursor)
    (s' : Sites) (h : handleAtSource Client.nextBatch cursor s = (.ok rows, cursor', s'))
    (hr : rows ≠ []) : Client.remaining cursor' < Client.remaining cursor := by
  simp only [handleAtSource, Prod.mk.injEq] at h
  obtain ⟨h1, h2, _⟩ := h
  refine Client.nextBatch_lt cursor s.sourceClient rows cursor'
    (Client.nextBatch cursor s.sourceClient).2.2 ?_ hr
  rw [← h1, ← h2]

/-- Both sites as a backend. -/
def backend : Backend Sites where
  Cursor := Cursor
  Session := Session
  sourceCatalog schema := atSource (Client.readCatalog schema)
  targetCatalog schema := atTarget (Client.readCatalog schema)
  openCursor r := atSource (Client.openCursor r)
  nextBatch := handleAtSource Client.nextBatch
  closeCursor cursor := atSource (Client.closeCursor cursor)
  beginSession := atTarget Client.beginSession
  truncate schema table := handleAtTarget (Client.truncate schema table)
  write target rows := handleAtTarget (Client.write target rows)
  commit session := atTarget (Client.commit session)
  rollback session := atTarget (Client.rollback session)
  countSource schema table := atSource (Client.countSource schema table)
  countTarget schema table := atTarget (Client.countTarget schema table)
  stopRequested s := s.stop
  probe? := some probeBoth
  close s := { s with source := s.source.close, target := s.target.close }
  remaining := Client.remaining
  remaining_lt := handleAtSource_lt

/-- Connect to both sides of a configuration, the source first. -/
def connect (config : Config) (server : Server) : Except MigrationError Sites × Server :=
  match Client.connect config.source server with
  | (.error e, server) => (.error e, server)
  | (.ok source, server) =>
    match Client.connect config.target server with
    | (.error e, server) => (.error e, server)
    | (.ok target, server) => (.ok ⟨server, source.pool, target.pool, 0, false⟩, server)

/-- The statements so far in order, and the sites with an empty log. -/
def takeLog (s : Sites) : List Sent × Sites :=
  let (log, server) := s.server.takeLog
  (log, { s with server := server })

end Sites

end Ferry.Postgres
