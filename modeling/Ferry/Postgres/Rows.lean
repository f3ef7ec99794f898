import Ferry.Postgres.CatalogRows

set_option autoImplicit false

/-! # Reading and writing rows

A cursor reads a table in a transaction of its own, so all batches are of one moment, and a
session writes in one transaction. Each holds a connection of the pool until it ends. It gives the
connection back only when its transaction has ended; in every other case, as when a statement
failed or the cursor or the session was dropped, the connection is detached. -/

namespace Ferry.Postgres

/-! ## Cursors -/

/-- A cursor. -/
structure Cursor where
  connection : Connection
  name : String
  table : String
  /-- The number of rows in a batch. -/
  batchSize : Nat
  batchSize_pos : 0 < batchSize
  decoders : List Decoder
  /-- Whether an empty batch has been given. -/
  exhausted : Bool

namespace Client

/-- Open a cursor. It has its number before a connection is asked for, so a number that was given
    out in vain is not given out again. -/
def openCursor (r : ReadRequest) : Call Client Cursor := fun k =>
  match select r with
  | .error e => (.error e, k)
  | .ok text =>
    let name := "drift_cursor_" ++ toString k.cursors
    match leaseFor "opening source cursor" { k with cursors := k.cursors + 1 } with
    | (.error e, k) => (.error e, k)
    | (.ok c, k) =>
      match k.execute c (.openCursor name text r.table r.columns) with
      | (.error e, c, k) => (.error (.database e), k.detach c)
      | (.ok _, c, k) =>
        let size := max r.batchSize 1
        match k.server.prepare c (.fetch size name) with
        | (.error e, server) => (.error (.database e), { k with server := server }.detach c)
        | (.ok _, server) =>
          (.ok
            { connection := c, name := name, table := r.table, batchSize := size
              batchSize_pos := Nat.lt_of_lt_of_le Nat.zero_lt_one (Nat.le_max_right ..)
              decoders := r.columns.map (fun c => Decoder.ofType c.dataType)
              exhausted := false },
            { k with server := server })

/-- Give the next batch. Nothing is asked of the server behind the first empty batch. -/
def nextBatch : HandleCall Cursor Client (List Row) := fun cursor k =>
  if cursor.exhausted then (.ok [], cursor, k)
  else
    match k.execute cursor.connection (.fetch cursor.batchSize cursor.name) with
    | (.error e, c, k) => (.error (.database e), { cursor with connection := c }, k)
    | (.ok reply, c, k) =>
      let rest := { cursor with connection := c, exhausted := reply.rowList.isEmpty }
      match Decoder.decodeRows cursor.decoders reply.rowList with
      | .error place => (.error (.database ⟨unreadable place, []⟩), rest, k)
      | .ok rows => (.ok rows, rest, k)

/-- Close a cursor. -/
def closeCursor (cursor : Cursor) : Call Client Unit := fun k =>
  match k.execute cursor.connection (.closeCursor cursor.name) with
  | (.error e, c, k) => (.error (.database e), k.detach c)
  | (.ok _, c, k) => (.ok (), k.giveBack c)

/-- Drop a cursor without closing it. -/
def dropCursor (cursor : Cursor) (k : Client) : Client := k.detach cursor.connection

/-- The number of rows that a cursor can still give. -/
def remaining (cursor : Cursor) : Nat := cursor.connection.pending.length

end Client

theorem Server.execute_fetch {s s' : Server} {c c' : Connection} {size : Nat} {name : String}
    {reply : Reply} (h : s.execute c (.fetch size name) = (.ok reply, c', s')) :
    reply.rowList = c.pending.take size ∧ c'.pending = c.pending.drop size := by
  unfold Server.execute at h
  dsimp only at h
  split at h
  · simp at h
  · simp only [Server.perform, Prod.mk.injEq, Except.ok.injEq] at h
    obtain ⟨h1, h2, _⟩ := h
    subst h1 h2
    simp [Reply.rowList]

theorem Client.nextBatch_lt (cursor : Cursor) (k : Client) (rows : List Row) (cursor' : Cursor)
    (k' : Client) (h : Client.nextBatch cursor k = (.ok rows, cursor', k')) (hr : rows ≠ []) :
    Client.remaining cursor' < Client.remaining cursor := by
  unfold Client.nextBatch at h
  split at h
  · simp only [Prod.mk.injEq, Except.ok.injEq] at h
    exact absurd h.1.symm hr
  · split at h
    · simp at h
    · rename_i reply c k'' hx
      dsimp only at h
      split at h
      · simp at h
      · rename_i rows' hd
        simp only [Prod.mk.injEq, Except.ok.injEq] at h
        obtain ⟨rfl, h2, _⟩ := h
        subst h2
        simp only [Client.execute] at hx
        cases he : k.server.execute cursor.connection
            (.fetch cursor.batchSize cursor.name) with
        | mk outcome p =>
          obtain ⟨c2, s2⟩ := p
          rw [he] at hx
          simp only [Prod.mk.injEq] at hx
          obtain ⟨rfl, rfl, _⟩ := hx
          obtain ⟨hrows, hpending⟩ := Server.execute_fetch he
          have hlen := Decoder.decodeRows_length _ _ _ hd
          rw [hrows] at hlen
          have hpos : 0 < rows'.length := List.length_pos_iff.mpr hr
          have hsize := cursor.batchSize_pos
          simp only [List.length_take] at hlen
          simp only [Client.remaining, hpending, List.length_drop]
          omega

/-! ## Sessions -/

/-- A session. -/
structure Session where
  connection : Connection
deriving Inhabited

namespace Client

/-- Start a transaction. -/
def beginSession : Call Client Session := fun k =>
  match leaseFor "opening target transaction" k with
  | (.error e, k) => (.error e, k)
  | (.ok c, k) =>
    match k.execute c .startTransaction with
    | (.error e, c, k) => (.error (.database e), k.giveBack c)
    | (.ok _, c, k) => (.ok ⟨c⟩, k)

/-- Remove every row of a table. -/
def truncate (schema table : String) : HandleCall Session Client Unit := fun session k =>
  match Identifier.qualify schema table with
  | .error e => (.error e, session, k)
  | .ok qualified =>
    match k.execute session.connection (.truncate table qualified) with
    | (.error e, c, k) => (.error (.database e), ⟨c⟩, k)
    | (.ok _, c, k) => (.ok (), ⟨c⟩, k)

/-- Write rows. Nothing is sent for no rows. -/
def write (target : WriteTarget) (rows : List Row) : HandleCall Session Client Nat :=
  fun session k =>
    if rows.isEmpty then (.ok 0, session, k)
    else
      match Sql.insert target rows with
      | .error e => (.error e, session, k)
      | .ok sql =>
        match k.query session.connection (.insert target.table rows.length sql) with
        | (.error e, c, k) => (.error (.database e), ⟨c⟩, k)
        | (.ok reply, c, k) => (.ok reply.written, ⟨c⟩, k)

/-- End the transaction of a session by a statement. -/
def finish (statement : Statement) (session : Session) : Call Client Unit := fun k =>
  match k.execute session.connection statement with
  | (.error e, c, k) => (.error (.database e), k.detach c)
  | (.ok _, c, k) => (.ok (), k.giveBack c)

/-- Publish what a session has written. -/
def commit : Session → Call Client Unit := finish .commit

/-- Give up what a session has written. -/
def rollback : Session → Call Client Unit := finish .rollback

/-- Drop a session without ending it. -/
def dropSession (session : Session) (k : Client) : Client := k.detach session.connection

/-! ## Counting -/

/-- Count the rows of a table, for a purpose that labels the error. -/
def countRows (purpose schema table : String) : Call Client Int := fun k =>
  match leaseFor purpose k with
  | (.error e, k) => (.error e, k)
  | (.ok c, k) =>
    match Identifier.qualify schema table with
    | .error e => (.error e, k.giveBack c)
    | .ok qualified =>
      match k.query c (.count table qualified) with
      | (.error e, c, k) => (.error (.database e), k.giveBack c)
      | (.ok reply, c, k) => (.ok reply.counted, k.giveBack c)

/-- Count the rows of a table of the source. -/
def countSource : String → String → Call Client Int := countRows "counting source rows"

/-- Count the rows of a table of the target. -/
def countTarget : String → String → Call Client Int := countRows "counting target rows"

end Client

end Ferry.Postgres
