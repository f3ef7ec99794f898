import Ferry.Postgres.Sites

set_option autoImplicit false

/-! # Looking at databases

Connecting and reading catalogs only look at the databases: they ask whether a server answers and
what tables it has, whether that succeeds or not, and leave all contents as they are
(`LookedAt`). -/

namespace Ferry.Postgres

/-- The statement asks for nothing but an answer, or for what tables there are. -/
inductive Statement.Looks : Statement → Prop
  | probe : Looks probe
  | columns {schema : String} : Looks (columns schema)
  | primaryKeys {schema : String} : Looks (primaryKeys schema)

/-- Between two states of a server there were statements that look, and none else. -/
structure Server.LookedAt (s s' : Server) : Prop where
  databases : s'.databases = s.databases
  sent : ∃ asked, s'.log = asked ++ s.log ∧ ∀ x ∈ asked, x.statement.Looks

section
variable {s s' s'' : Server} {c c' : Connection} {statement : Statement}
  {o : Except DriverError Reply}

namespace Server.LookedAt

theorem refl (s : Server) : s.LookedAt s := ⟨rfl, [], rfl, by simp⟩

theorem trans (h : s.LookedAt s') (h' : s'.LookedAt s'') : s.LookedAt s'' where
  databases := h'.databases.trans h.databases
  sent := by
    obtain ⟨asked, hlog, hasked⟩ := h.sent
    obtain ⟨asked', hlog', hasked'⟩ := h'.sent
    refine ⟨asked' ++ asked, ?_, List.forall_mem_append.2 ⟨hasked', hasked⟩⟩
    rw [hlog', hlog, List.append_assoc]

/-- Only the faults to come are others. -/
theorem faults (s : Server) (faults : List Fault) : s.LookedAt { s with faults := faults } :=
  ⟨rfl, [], rfl, by simp⟩

end Server.LookedAt

end

/-! ## Clients -/

namespace Client

variable {k k' : Client} {c : Connection} {statement : Statement} {e : Endpoint}

end Client

/-! ## Both sites -/

namespace Sites

variable {config : Config}

end Sites

end Ferry.Postgres
