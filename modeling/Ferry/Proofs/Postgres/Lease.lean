import Ferry.Postgres.Rows
import Mathlib.Data.List.Perm.Basic

set_option autoImplicit false

/-! # Connections in use

Where the connections of a pool are: `Accounted` says that every connection opened so far is idle,
held by somebody or closed, and only one of these, and that those that are idle are in no
transaction. Every call of a pool keeps it, whether its statements fail or not: a call that ends
what somebody holds gives the connection back or detaches it, and a call that fails on its way to a
handle holds nothing. Which of the two it does rests on what is known of the transaction after the
last statement (`Moved`). -/

namespace Ferry.Postgres

/-! ## Connections and statements -/

/-- What a statement makes of its connection. If it fails, its first commands may have been carried
    out. -/
inductive Moved (statement : Statement) (c : Connection) :
    Except DriverError Reply → Connection → Prop
  | done {reply c'} (hid : c'.id = c.id)
      (htransaction : c'.inTransaction = (c.afterAll statement.commands).inTransaction) :
      Moved statement c (.ok reply) c'
  | failed {e} (done : Nat) : Moved statement c (.error e) (c.afterFailure statement done)

theorem Connection.afterAll_id (c : Connection) (commands : List Command) :
    (c.afterAll commands).id = c.id := by
  induction commands generalizing c with
  | nil => rfl
  | cons command rest ih => exact (ih (c.after command)).trans (by cases command <;> rfl)

/-- Nothing but a start puts a connection into a transaction. -/
theorem Connection.afterAll_ended {c : Connection} {commands : List Command}
    (hquiet : .start ∉ commands) (hended : c.inTransaction = false) :
    (c.afterAll commands).inTransaction = false := by
  induction commands generalizing c with
  | nil => exact hended
  | cons command rest ih =>
      rw [List.mem_cons, not_or] at hquiet
      refine ih hquiet.2 ?_
      cases command with
      | start => exact absurd rfl hquiet.1
      | finish => rfl
      | work => exact hended

theorem Connection.afterAll_concat_finish (c : Connection) (commands : List Command) :
    (c.afterAll (commands ++ [.finish])).inTransaction = false := by
  simp [afterAll, after]

section
variable {statement : Statement} {c c' : Connection} {o : Except DriverError Reply} {reply : Reply}

theorem Moved.id_eq (h : Moved statement c o c') : c'.id = c.id := by
  cases h with
  | done hid => exact hid
  | failed done => exact c.afterAll_id _

/-- Behind a statement without a start a connection is in no transaction that it was not in. -/
theorem Moved.ended (h : Moved statement c o c') (hquiet : .start ∉ statement.commands)
    (hended : c.inTransaction = false) : c'.inTransaction = false := by
  cases h with
  | done _ htransaction => exact htransaction.trans (Connection.afterAll_ended hquiet hended)
  | failed done =>
      refine Connection.afterAll_ended (fun hmem => hquiet ?_) hended
      exact (List.dropLast_sublist _).subset (List.mem_of_mem_take hmem)

/-- A transaction that could not be started is not open. -/
theorem Moved.not_started {e : DriverError} (h : Moved .startTransaction c (.error e) c')
    (hended : c.inTransaction = false) : c'.inTransaction = false := by
  cases h with
  | failed done => exact Connection.afterAll_ended (by simp [Statement.commands]) hended

theorem Moved.finished (h : Moved statement c (.ok reply) c')
    (hlast : statement.commands.getLast? = some .finish) : c'.inTransaction = false := by
  obtain ⟨before, hcommands⟩ := List.getLast?_eq_some_iff.1 hlast
  cases h with
  | done _ htransaction =>
      rw [htransaction, hcommands]
      exact c.afterAll_concat_finish before

end

theorem Server.perform_moved (s : Server) (c : Connection) (statement : Statement)
    (inserted : Option Nat) :
    (s.perform c statement inserted).2.1.id = c.id ∧
      (s.perform c statement inserted).2.1.inTransaction
        = (c.afterAll statement.commands).inTransaction := by
  have hid := c.afterAll_id statement.commands
  cases statement <;> exact ⟨hid, rfl⟩

theorem Server.execute_moved {s s' : Server} {c c' : Connection} {statement : Statement}
    {o : Except DriverError Reply} (h : s.execute c statement = (o, c', s')) :
    Moved statement c o c' := by
  unfold execute at h
  dsimp only at h
  split at h
  · cases h
    exact .failed _
  · cases h
    exact .done (perform_moved ..).1 (perform_moved ..).2

section
variable {k k' : Client} {c c' : Connection} {statement : Statement}
  {o : Except DriverError Reply}

theorem Client.execute_spec (h : k.execute c statement = (o, c', k')) :
    k'.pool = k.pool ∧ Moved statement c o c' := by
  unfold execute at h
  rcases hexecute : k.server.execute c statement with ⟨outcome, moved, server⟩
  rw [hexecute] at h
  cases h
  exact ⟨rfl, Server.execute_moved hexecute⟩

theorem Client.query_spec (h : k.query c statement = (o, c', k')) :
    k'.pool = k.pool ∧ Moved statement c o c' := by
  unfold query Server.query at h
  rcases hprepare : k.server.prepare c statement with ⟨e | u, server⟩
  · rw [hprepare] at h
    cases h
    -- A statement that cannot be prepared fails in front of its first command.
    exact ⟨rfl, .failed 0⟩
  · rw [hprepare] at h
    rcases hexecute : server.execute c statement with ⟨outcome, moved, server'⟩
    simp only [hexecute] at h
    cases h
    exact ⟨rfl, Server.execute_moved hexecute⟩

end

/-! ## Accounts -/

/-- Every connection that a pool has opened is in one place, idle, held or closed, and in no other;
    and those that are idle are in no transaction. -/
structure Accounted (p : Pool) (held : List Connection) : Prop where
  once : (p.idle.map Connection.id ++ held.map Connection.id ++ p.detached).Perm
    (List.range p.opened)
  ended : ∀ c ∈ p.idle, c.inTransaction = false

namespace Accounted

section
variable {p : Pool} {held held' : List Connection} {c c' : Connection}

theorem perm (h : Accounted p held) (hperm : held.Perm held') : Accounted p held' where
  once := (((hperm.map _).symm.append_left _).append_right _).trans h.once
  ended := h.ended

/-- It does not matter what has become of a connection that is held. -/
theorem moved (h : Accounted p (c :: held)) (hid : c'.id = c.id) : Accounted p (c' :: held) where
  once := by simpa only [List.map_cons, hid] using h.once
  ended := h.ended

theorem detach (h : Accounted p (c :: held)) : Accounted (p.detach c) held where
  once := by
    refine List.Perm.trans ?_ h.once
    simp only [Pool.detach, List.map_cons, List.append_assoc, List.cons_append]
    exact List.perm_middle.append_left _
  ended := h.ended

theorem giveBack (h : Accounted p (c :: held)) (hended : c.inTransaction = false) :
    Accounted (p.giveBack c) held := by
  unfold Pool.giveBack
  split
  · exact h.detach
  · constructor
    case once => simpa using h.once
    case ended =>
      intro idle hidle
      rcases List.mem_append.1 hidle with hidle | hnew
      · exact h.ended idle hidle
      · rw [List.mem_singleton.1 hnew]
        exact hended

theorem close (h : Accounted p held) : Accounted p.close held where
  once := by
    refine List.Perm.trans ?_ h.once
    simp only [Pool.close, List.map_nil, List.nil_append]
    rw [← List.append_assoc]
    exact List.perm_append_comm.append_right _
  ended c hc := by cases hc

theorem make (e : Endpoint) (mode : SslMode) : Accounted (Pool.make e mode) [] where
  once := .refl _
  ended c hc := by cases hc

end

section
variable {k k' : Client} {held : List Connection} {c c' : Connection} {purpose : String}

theorem lease_error {issue : Client.LeaseIssue} (h : Accounted k.pool held)
    (hlease : k.lease = (.error issue, k')) : Accounted k'.pool held := by
  unfold Client.lease at hlease
  split at hlease
  · cases hlease
    exact h
  split at hlease
  · cases hlease
  split at hlease
  · cases hlease
    exact h
  split at hlease
  · cases hlease
    exact h
  · cases hlease

/-- A connection that is handed out is in no transaction. -/
theorem lease_ok (h : Accounted k.pool held) (hlease : k.lease = (.ok c, k')) :
    Accounted k'.pool (c :: held) ∧ c.inTransaction = false := by
  unfold Client.lease at hlease
  split at hlease
  · cases hlease
  split at hlease
  · next first rest hidle =>
      cases hlease
      have honce := h.once
      have hended := h.ended
      rw [hidle] at honce hended
      refine ⟨⟨List.Perm.trans ?_ honce, fun d hd => hended d (List.mem_cons_of_mem _ hd)⟩,
        hended _ List.mem_cons_self⟩
      exact List.perm_middle.append_right _
  · next hidle =>
      split at hlease
      · cases hlease
      split at hlease
      · cases hlease
      · cases hlease
        have honce := h.once
        rw [hidle] at honce
        refine ⟨⟨?_, fun d hd => h.ended d hd⟩, rfl⟩
        simp only [hidle, List.range_succ]
        exact (honce.cons _).trans (List.perm_append_singleton _ _).symm

theorem leaseFor_error {e : MigrationError} (h : Accounted k.pool held)
    (hlease : Client.leaseFor purpose k = (.error e, k')) : Accounted k'.pool held := by
  unfold Client.leaseFor at hlease
  rcases hissue : k.lease with ⟨issue | c, k₁⟩
  all_goals
    rw [hissue] at hlease
    cases hlease
  exact h.lease_error hissue

theorem leaseFor_ok (h : Accounted k.pool held)
    (hlease : Client.leaseFor purpose k = (.ok c, k')) :
    Accounted k'.pool (c :: held) ∧ c.inTransaction = false := by
  unfold Client.leaseFor at hlease
  rcases hissue : k.lease with ⟨issue | c, k₁⟩
  all_goals
    rw [hissue] at hlease
    cases hlease
  exact h.lease_ok hissue

/-! ## Calls that end what they take -/

section
variable {statement : Statement} {o : Except DriverError Reply}

theorem used (h : Accounted k.pool (c :: held))
    (hspec : k'.pool = k.pool ∧ Moved statement c o c') : Accounted k'.pool (c' :: held) :=
  hspec.1 ▸ h.moved hspec.2.id_eq

/-- Behind a statement that leaves transactions alone a connection can be given back. -/
theorem visited (h : Accounted k.pool (c :: held)) (hended : c.inTransaction = false)
    (hspec : k'.pool = k.pool ∧ Moved statement c o c') (hquiet : .start ∉ statement.commands) :
    Accounted k'.pool (c' :: held) ∧ c'.inTransaction = false :=
  ⟨h.used hspec, hspec.2.ended hquiet hended⟩

end

theorem countRows (h : Accounted k.pool held) (schema table : String) :
    Accounted (Client.countRows purpose schema table k).2.pool held := by
  unfold Client.countRows
  rcases hlease : Client.leaseFor purpose k with ⟨e | c, k₁⟩
  · exact h.leaseFor_error hlease
  obtain ⟨hheld, hended⟩ := h.leaseFor_ok hlease
  cases hqualify : Identifier.qualify schema table with
  | error e => exact hheld.giveBack hended
  | ok qualified =>
      rcases hquery : k₁.query c (.count table qualified) with ⟨o, c₂, k₂⟩
      obtain ⟨hheld', hended'⟩ :=
        hheld.visited hended (Client.query_spec hquery) (by simp [Statement.commands])
      simp only [hquery]
      cases o <;> exact hheld'.giveBack hended'

theorem readCatalog (h : Accounted k.pool held) (schema : String) :
    Accounted (k.readCatalog schema).2.pool held := by
  unfold Client.readCatalog
  rcases hlease : k.lease with ⟨e | c, k₁⟩
  · exact h.lease_error hlease
  obtain ⟨hheld, hended⟩ := h.lease_ok hlease
  rcases hcolumns : k₁.query c (.columns schema) with ⟨columns, c₂, k₂⟩
  obtain ⟨hheld₂, hended₂⟩ :=
    hheld.visited hended (Client.query_spec hcolumns) (by simp [Statement.commands])
  simp only [hcolumns]
  cases columns with
  | error e => exact hheld₂.giveBack hended₂
  | ok columns =>
      rcases hkeys : k₂.query c₂ (.primaryKeys schema) with ⟨keys, c₃, k₃⟩
      obtain ⟨hheld₃, hended₃⟩ :=
        hheld₂.visited hended₂ (Client.query_spec hkeys) (by simp [Statement.commands])
      simp only [hkeys]
      cases keys with
      | error e => exact hheld₃.giveBack hended₃
      | ok keys =>
          simp only
          split <;> exact hheld₃.giveBack hended₃

theorem probe (h : Accounted k.pool held) : Accounted k.probe.2.pool held := by
  unfold Client.probe
  rcases hlease : Client.leaseFor "health check" k with ⟨e | c, k₁⟩
  · exact h.leaseFor_error hlease
  obtain ⟨hheld, hended⟩ := h.leaseFor_ok hlease
  rcases hexecute : k₁.execute c .probe with ⟨o, c₂, k₂⟩
  obtain ⟨hheld', hended'⟩ :=
    hheld.visited hended (Client.execute_spec hexecute) (by simp [Statement.commands])
  simp only [hexecute]
  cases o <;> exact hheld'.giveBack hended'

/-- A pool that answers has been opened with its connections accounted for. -/
theorem connect {e : Endpoint} {server server' : Server}
    (hconnect : Client.connect e server = (.ok k, server')) : Accounted k.pool [] := by
  unfold Client.connect at hconnect
  cases hmode : SslMode.parse e.sslMode with
  | error error =>
      simp only [hmode] at hconnect
      cases hconnect
  | ok mode =>
      rcases hlease : Client.lease ⟨server, Pool.make e mode, 0⟩ with ⟨issue | c, k₁⟩
      · simp only [hmode, hlease] at hconnect
        cases hconnect
      obtain ⟨hheld, hended⟩ := (make e mode).lease_ok hlease
      rcases hexecute : k₁.execute c .probe with ⟨error | reply, c₂, k₂⟩
      all_goals
        simp only [hmode, hlease, hexecute] at hconnect
        cases hconnect
      obtain ⟨hheld', hended'⟩ :=
        hheld.visited hended (Client.execute_spec hexecute) (by simp [Statement.commands])
      exact hheld'.giveBack hended'

/-! ## Cursors and sessions -/

theorem openCursor (h : Accounted k.pool held) (r : ReadRequest) :
    Accounted (Client.openCursor r k).2.pool
      ((Client.openCursor r k).1.toOption.toList.map Cursor.connection ++ held) := by
  unfold Client.openCursor
  cases hselect : select r with
  | error e => exact h
  | ok text =>
      have hnamed : Accounted { k with cursors := k.cursors + 1 }.pool held := h
      rcases hlease : Client.leaseFor "opening source cursor" { k with cursors := k.cursors + 1 }
        with ⟨e | c, k₁⟩
      · exact hnamed.leaseFor_error hlease
      obtain ⟨hheld, hended⟩ := hnamed.leaseFor_ok hlease
      rcases hexecute : k₁.execute c
          (.openCursor ("drift_cursor_" ++ toString k.cursors) text r.table r.columns)
        with ⟨e | reply, c₂, k₂⟩
      all_goals
        have hheld₂ := hheld.used (Client.execute_spec hexecute)
        simp only [hexecute]
      · exact hheld₂.detach
      · split
        · exact hheld₂.detach
        · exact hheld₂

theorem nextBatch {cursor : Cursor} (h : Accounted k.pool (cursor.connection :: held)) :
    Accounted (Client.nextBatch cursor k).2.2.pool
      ((Client.nextBatch cursor k).2.1.connection :: held) := by
  unfold Client.nextBatch
  by_cases hexhausted : cursor.exhausted
  · rw [if_pos hexhausted]
    exact h
  rw [if_neg hexhausted]
  rcases hexecute : k.execute cursor.connection (.fetch cursor.batchSize cursor.name)
    with ⟨e | reply, c, k₁⟩
  all_goals
    have hheld := h.used (Client.execute_spec hexecute)
    simp only
  · exact hheld
  · split <;> exact hheld

theorem beginSession (h : Accounted k.pool held) :
    Accounted (Client.beginSession k).2.pool
      ((Client.beginSession k).1.toOption.toList.map Session.connection ++ held) := by
  unfold Client.beginSession
  rcases hlease : Client.leaseFor "opening target transaction" k with ⟨e | c, k₁⟩
  · exact h.leaseFor_error hlease
  obtain ⟨hheld, hended⟩ := h.leaseFor_ok hlease
  rcases hexecute : k₁.execute c .startTransaction with ⟨e | reply, c₂, k₂⟩
  all_goals
    have hspec := Client.execute_spec hexecute
    simp only [hexecute]
  · exact (hheld.used hspec).giveBack (hspec.2.not_started hended)
  · exact hheld.used hspec

theorem truncate {session : Session} (h : Accounted k.pool (session.connection :: held))
    (schema table : String) :
    Accounted (Client.truncate schema table session k).2.2.pool
      ((Client.truncate schema table session k).2.1.connection :: held) := by
  unfold Client.truncate
  cases hqualify : Identifier.qualify schema table with
  | error e => exact h
  | ok qualified =>
      rcases hexecute : k.execute session.connection (.truncate table qualified)
        with ⟨e | reply, c, k₁⟩
      all_goals
        simp only [hexecute]
        exact h.used (Client.execute_spec hexecute)

theorem write {session : Session} (h : Accounted k.pool (session.connection :: held))
    (target : WriteTarget) (rows : List Row) :
    Accounted (Client.write target rows session k).2.2.pool
      ((Client.write target rows session k).2.1.connection :: held) := by
  unfold Client.write
  by_cases hrows : rows.isEmpty
  · rw [if_pos hrows]
    exact h
  rw [if_neg hrows]
  cases hinsert : Sql.insert target rows with
  | error e => exact h
  | ok sql =>
      rcases hquery : k.query session.connection (.insert target.table rows.length sql)
        with ⟨e | reply, c, k₁⟩
      all_goals
        simp only [hquery]
        exact h.used (Client.query_spec hquery)

/-- A connection is given back behind the end of its transaction, and closed if that fails. -/
theorem finish {session : Session} {statement : Statement}
    (h : Accounted k.pool (session.connection :: held))
    (hlast : statement.commands.getLast? = some .finish) :
    Accounted (Client.finish statement session k).2.pool held := by
  unfold Client.finish
  rcases hexecute : k.execute session.connection statement with ⟨e | reply, c, k₁⟩
  all_goals
    have hspec := Client.execute_spec hexecute
    simp only
  · exact (h.used hspec).detach
  · exact (h.used hspec).giveBack (hspec.2.finished hlast)

/-- Closing a cursor is ending a transaction by another statement. -/
theorem closeCursor {cursor : Cursor} (h : Accounted k.pool (cursor.connection :: held)) :
    Accounted (Client.closeCursor cursor k).2.pool held := by
  have hsame : Client.closeCursor cursor k
      = Client.finish (.closeCursor cursor.name) ⟨cursor.connection⟩ k := rfl
  rw [hsame]
  exact finish h rfl

theorem detachAll {held' : List Connection} (h : Accounted k.pool (held ++ held')) :
    Accounted (held.foldl Client.detach k).pool held' := by
  induction held generalizing k with
  | nil => exact h
  | cons c rest ih => exact ih h.detach

end

end Accounted

end Ferry.Postgres
