import Ferry.Proofs.Postgres.Lease

set_option autoImplicit false

/-! # A pool in use

Any number of cursors and sessions are open on a pool at a time, and they are used, ended and
dropped in any order, between calls that need a connection for themselves alone. Whatever fails on
the way, the connections stay accounted for: each call keeps the account (`Usage.accounted_step`),
so all calls do. -/

namespace Ferry.Postgres

/-! ## Calls -/

/-- What can be done with a cursor. -/
inductive CursorCall
  | nextBatch
  | close
  | drop

/-- What can be done with a session. -/
inductive SessionCall
  | truncate (schema table : String)
  | write (target : WriteTarget) (rows : List Row)
  | commit
  | rollback
  | drop

/-- What a call leaves of its cursor, and the pool behind it. -/
def CursorCall.perform (cursor : Cursor) (k : Client) : CursorCall → Option Cursor × Client
  | nextBatch => (some (k.nextBatch cursor).2.1, (k.nextBatch cursor).2.2)
  | close => (none, (k.closeCursor cursor).2)
  | drop => (none, k.dropCursor cursor)

/-- What a call leaves of its session, and the pool behind it. -/
def SessionCall.perform (session : Session) (k : Client) : SessionCall → Option Session × Client
  | truncate schema table =>
    (some (Client.truncate schema table session k).2.1,
      (Client.truncate schema table session k).2.2)
  | write target rows =>
    (some (Client.write target rows session k).2.1, (Client.write target rows session k).2.2)
  | commit => (none, (Client.commit session k).2)
  | rollback => (none, (Client.rollback session k).2)
  | drop => (none, Client.dropSession session k)

/-- What can be done with a pool. -/
inductive Action
  | openCursor (request : ReadRequest)
  | cursor (i : Nat) (call : CursorCall)
  | beginSession
  | session (i : Nat) (call : SessionCall)
  | countRows (purpose schema table : String)
  | readCatalog (schema : String)
  | probe
  | close
  /-- Others have used the server, and left it like this. -/
  | others (server : Server)

/-! ## Usage -/

/-- A pool with the cursors and the sessions that are open on it. -/
structure Usage where
  client : Client
  cursors : List Cursor
  sessions : List Session

/-- A list of handles after one of them has been used. -/
def putBack {η : Type} (handles : List η) (i : Nat) : Option η → List η
  | some handle => handles.set i handle
  | none => handles.eraseIdx i

namespace Usage

/-- The connections that cursors and sessions hold. -/
def held (u : Usage) : List Connection :=
  u.cursors.map Cursor.connection ++ u.sessions.map Session.connection

/-- A cursor or session that is not there cannot be used. -/
def step (u : Usage) : Action → Usage
  | .openCursor request =>
    { u with
      client := (Client.openCursor request u.client).2
      cursors := (Client.openCursor request u.client).1.toOption.toList ++ u.cursors }
  | .cursor i call =>
    match u.cursors[i]? with
    | none => u
    | some cursor =>
      { u with
        client := (call.perform cursor u.client).2
        cursors := putBack u.cursors i (call.perform cursor u.client).1 }
  | .beginSession =>
    { u with
      client := (Client.beginSession u.client).2
      sessions := (Client.beginSession u.client).1.toOption.toList ++ u.sessions }
  | .session i call =>
    match u.sessions[i]? with
    | none => u
    | some session =>
      { u with
        client := (call.perform session u.client).2
        sessions := putBack u.sessions i (call.perform session u.client).1 }
  | .countRows purpose schema table =>
    { u with client := (Client.countRows purpose schema table u.client).2 }
  | .readCatalog schema => { u with client := (Client.readCatalog schema u.client).2 }
  | .probe => { u with client := u.client.probe.2 }
  | .close => { u with client := u.client.close }
  | .others server => { u with client := { u.client with server := server } }

/-- One action after the other. -/
def run (u : Usage) (actions : List Action) : Usage := actions.foldl step u

/-- Drop all cursors and sessions that are still open. -/
def leave (u : Usage) : Client :=
  u.sessions.foldl (fun k session => k.dropSession session)
    (u.cursors.foldl (fun k cursor => k.dropCursor cursor) u.client)

end Usage

/-! ## Accounts -/

section
variable {k : Client} {held : List Connection}

theorem CursorCall.accounted {cursor : Cursor} (call : CursorCall)
    (h : Accounted k.pool (cursor.connection :: held)) :
    Accounted (call.perform cursor k).2.pool
      ((call.perform cursor k).1.toList.map Cursor.connection ++ held) := by
  cases call with
  | nextBatch => exact h.nextBatch
  | close => exact h.closeCursor
  | drop => exact h.detach

theorem SessionCall.accounted {session : Session} (call : SessionCall)
    (h : Accounted k.pool (session.connection :: held)) :
    Accounted (call.perform session k).2.pool
      ((call.perform session k).1.toList.map Session.connection ++ held) := by
  cases call with
  | truncate schema table => exact h.truncate schema table
  | write target rows => exact h.write target rows
  | commit => exact h.finish rfl
  | rollback => exact h.finish rfl
  | drop => exact h.detach

end

section
variable {η : Type} {handles : List η} {i : Nat} {handle : η}

theorem perm_eraseIdx (h : handles[i]? = some handle) :
    handles.Perm (handle :: handles.eraseIdx i) := by
  obtain ⟨hi, rfl⟩ := List.getElem?_eq_some_iff.1 h
  exact (List.getElem_cons_eraseIdx_perm hi).symm

theorem perm_putBack (h : handles[i]? = some handle) (left : Option η) :
    (left.toList ++ handles.eraseIdx i).Perm (putBack handles i left) := by
  obtain ⟨hi, rfl⟩ := List.getElem?_eq_some_iff.1 h
  cases left with
  | none => exact .refl _
  | some left => exact (List.set_perm_cons_eraseIdx hi left).symm

end

namespace Usage

variable {u : Usage} {i : Nat}

/-- The connection of a cursor in front of all others. -/
theorem held_cursor {cursor : Cursor} (h : u.cursors[i]? = some cursor) :
    u.held.Perm (cursor.connection ::
      ((u.cursors.eraseIdx i).map Cursor.connection ++ u.sessions.map Session.connection)) :=
  ((perm_eraseIdx h).map _).append_right _

/-- The connection of a session in front of all others. -/
theorem held_session {session : Session} (h : u.sessions[i]? = some session) :
    u.held.Perm (session.connection ::
      (u.cursors.map Cursor.connection ++ (u.sessions.eraseIdx i).map Session.connection)) :=
  (((perm_eraseIdx h).map _).append_left _).trans List.perm_middle

theorem accounted_step (h : Accounted u.client.pool u.held) (action : Action) :
    Accounted (u.step action).client.pool (u.step action).held := by
  cases action with
  | openCursor request =>
      simpa only [step, held, List.map_append, List.append_assoc] using h.openCursor request
  | cursor i call =>
      cases hcursor : u.cursors[i]? with
      | none => simpa only [step, hcursor] using h
      | some cursor =>
          have hperformed := call.accounted (h.perm (held_cursor hcursor))
          simp only [step, hcursor]
          refine hperformed.perm ?_
          rw [← List.append_assoc, ← List.map_append]
          exact ((perm_putBack hcursor _).map _).append_right _
  | beginSession =>
      refine (h.beginSession).perm ?_
      simp only [step, held, List.map_append]
      exact List.perm_append_comm_assoc ..
  | session i call =>
      cases hsession : u.sessions[i]? with
      | none => simpa only [step, hsession] using h
      | some session =>
          have hperformed := call.accounted (h.perm (held_session hsession))
          simp only [step, hsession]
          refine hperformed.perm ((List.perm_append_comm_assoc ..).trans ?_)
          rw [← List.map_append]
          exact ((perm_putBack hsession _).map _).append_left _
  | countRows purpose schema table => exact h.countRows schema table
  | readCatalog schema => exact h.readCatalog schema
  | probe => exact h.probe
  | close => exact h.close
  | others server => exact h

theorem accounted_run (h : Accounted u.client.pool u.held) (actions : List Action) :
    Accounted (u.run actions).client.pool (u.run actions).held := by
  induction actions generalizing u with
  | nil => exact h
  | cons action rest ih => exact ih (accounted_step h action)

theorem accounted_leave (h : Accounted u.client.pool u.held) : Accounted u.leave.pool [] := by
  have hleave : u.leave = u.held.foldl Client.detach u.client := by
    simp only [leave, held, List.foldl_append, List.foldl_map]
    rfl
  rw [hleave]
  exact Accounted.detachAll (by rwa [List.append_nil])

end Usage

/-- However a pool is used and whatever fails, every connection that it has opened is idle, held by
    one cursor or session, or closed, and only one of these; and when all that was opened on it is
    dropped at last, every connection has been given back or closed. No connection that was given
    back is in a transaction. -/
theorem connections_accounted {e : Endpoint} {server server' : Server} {k : Client}
    (hconnect : Client.connect e server = (.ok k, server')) (actions : List Action) :
    Accounted (Usage.run ⟨k, [], []⟩ actions).client.pool
        (Usage.run ⟨k, [], []⟩ actions).held ∧
      Accounted (Usage.run ⟨k, [], []⟩ actions).leave.pool [] := by
  have hstart : Accounted (Usage.mk k [] []).client.pool (Usage.mk k [] []).held :=
    Accounted.connect hconnect
  have hrun := Usage.accounted_run hstart actions
  exact ⟨hrun, Usage.accounted_leave hrun⟩

namespace Sample

def endpoint : Endpoint :=
  { (default : Endpoint) with host := "localhost", database := "inn", sslMode := "disable" }

/-- A server on which the first end of a transaction fails. -/
def failing : Server :=
  ⟨[], [⟨none, .execute, "COMMIT", some 1, .fail ⟨"ERROR", "disk full", none, none⟩ 0, 0⟩], []⟩

/-- A pool that has been connected to the server. -/
def connected : Client :=
  ⟨(Client.connect endpoint failing).2,
    ⟨endpoint.displayName, false, [.fresh 0 endpoint.displayName], 1, [], false⟩, 0⟩

/-- A cursor stays open, one session cannot be committed, and another is rolled back. -/
def actions : List Action :=
  [.openCursor ⟨"public", "stays", [⟨"guest", "integer", false, none, 1⟩], 10⟩,
    .cursor 0 .nextBatch, .beginSession, .session 0 .commit, .beginSession, .session 0 .rollback]

end Sample

theorem sample_connections_accounted :
    (Usage.run ⟨Sample.connected, [], []⟩ Sample.actions).held.map Connection.id = [0] ∧
      (Usage.run ⟨Sample.connected, [], []⟩ Sample.actions).client.pool.detached = [1] ∧
      Accounted (Usage.run ⟨Sample.connected, [], []⟩ Sample.actions).client.pool
        (Usage.run ⟨Sample.connected, [], []⟩ Sample.actions).held ∧
      Accounted (Usage.run ⟨Sample.connected, [], []⟩ Sample.actions).leave.pool [] := by
  have hconnect : Client.connect Sample.endpoint Sample.failing
      = (.ok Sample.connected, (Client.connect Sample.endpoint Sample.failing).2) := rfl
  exact ⟨by decide +kernel, by decide +kernel, connections_accounted hconnect Sample.actions⟩

end Ferry.Postgres
