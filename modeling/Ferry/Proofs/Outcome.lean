set_option autoImplicit false

/-! # Outcomes

When a computation that can fail comes to a result, read off its parts. -/

namespace Ferry

variable {ε α β : Type} {x : Except ε α} {a : α} {b : β}

@[simp] theorem isOk_ok : (Except.ok a : Except ε α).isOk = true := rfl

@[simp] theorem isOk_error {e : ε} : (Except.error e : Except ε α).isOk = false := rfl

theorem isOk_iff : x.isOk ↔ ∃ a, x = .ok a := by
  cases x <;> simp

theorem toOption_eq_some_iff : x.toOption = some a ↔ x = .ok a := by
  cases x <;> simp [Except.toOption]

theorem map_eq_ok_iff {f : α → β} : x.map f = .ok b ↔ ∃ a, x = .ok a ∧ f a = b := by
  cases x <;> simp [Except.map]

theorem map_eq_error_iff {f : α → β} {e : ε} : x.map f = .error e ↔ x = .error e := by
  cases x <;> simp [Except.map]

theorem isOk_map {f : α → β} : (x.map f).isOk = x.isOk := by
  cases x <;> rfl

theorem bind_eq_ok_iff {f : α → Except ε β} : x >>= f = .ok b ↔ ∃ a, x = .ok a ∧ f a = .ok b := by
  cases x <;> simp [bind, Except.bind]

/-- Each result of a list comes of one of its members. -/
theorem exists_of_mem_mapM {f : α → Except ε β} {xs : List α} {ys : List β}
    (h : xs.mapM f = .ok ys) (hb : b ∈ ys) : ∃ a ∈ xs, f a = .ok b := by
  induction xs generalizing ys with
  | nil =>
      rw [List.mapM_nil] at h
      cases h
      cases hb
  | cons x xs ih =>
      simp only [List.mapM_cons, bind_eq_ok_iff] at h
      obtain ⟨first, hfirst, rest, hrest, hys⟩ := h
      cases hys
      rcases List.mem_cons.1 hb with rfl | hb
      · exact ⟨x, List.mem_cons_self, hfirst⟩
      · obtain ⟨a, ha, hread⟩ := ih hrest hb
        exact ⟨a, List.mem_cons_of_mem _ ha, hread⟩

theorem pure_eq_ok_iff {a' : α} : (pure a : Except ε α) = .ok a' ↔ a = a' := by
  simp [pure, Except.pure]

end Ferry
