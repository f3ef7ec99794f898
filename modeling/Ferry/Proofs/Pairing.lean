import Mathlib.Data.List.Forall2

set_option autoImplicit false

/-! # Lists that pair up

Two lists pair up under a relation when they are as long as each other and the relation holds place
by place. Such pairs are found member by member (`exists_forall₂`), lists that agree in what their
members have in common pair up under all that follows from it (`forall₂_of_map_eq`), and what is
found at a place of one list is related to what is there in the other (`getElem?_of_forall₂`). -/

namespace Ferry

theorem forall₂_imp_of_mem {α β : Type} {R S : α → β → Prop} {xs : List α} {ys : List β}
    (h : ∀ x ∈ xs, ∀ y, R x y → S x y) (hR : List.Forall₂ R xs ys) : List.Forall₂ S xs ys := by
  induction hR with
  | nil => exact .nil
  | cons hfirst _ ih =>
      exact .cons (h _ List.mem_cons_self _ hfirst)
        (ih (fun x hx => h x (List.mem_cons_of_mem _ hx)))

theorem forall₂_congr_of_mem {α β : Type} {R S : α → β → Prop} {xs : List α} {ys : List β}
    (h : ∀ x ∈ xs, ∀ y, R x y ↔ S x y) : List.Forall₂ R xs ys ↔ List.Forall₂ S xs ys :=
  ⟨forall₂_imp_of_mem (fun x hx y => (h x hx y).1), forall₂_imp_of_mem (fun x hx y => (h x hx y).2)⟩

theorem exists_forall₂ {α β : Type} {R : α → β → Prop} {xs : List α}
    (h : ∀ x ∈ xs, ∃ y, R x y) : ∃ ys, List.Forall₂ R xs ys := by
  induction xs with
  | nil => exact ⟨[], .nil⟩
  | cons x rest ih =>
      obtain ⟨y, hy⟩ := h x List.mem_cons_self
      obtain ⟨ys, hys⟩ := ih (fun x hx => h x (List.mem_cons_of_mem _ hx))
      exact ⟨y :: ys, .cons hy hys⟩

theorem exists_mem_of_forall₂ {α β : Type} {R : α → β → Prop} {xs : List α} {ys : List β} {y : β}
    (h : List.Forall₂ R xs ys) (hy : y ∈ ys) : ∃ x ∈ xs, R x y := by
  induction h with
  | nil => cases hy
  | cons hR _ ih =>
      rcases List.mem_cons.1 hy with rfl | hy
      · exact ⟨_, List.mem_cons_self, hR⟩
      · obtain ⟨x, hx, hxy⟩ := ih hy
        exact ⟨x, List.mem_cons_of_mem _ hx, hxy⟩

/-- Members at the same place are related. -/
theorem getElem?_of_forall₂ {α β : Type} {R : α → β → Prop} {xs : List α} {ys : List β} {i : Nat}
    {x : α} (h : List.Forall₂ R xs ys) (hx : xs[i]? = some x) : ∃ y, ys[i]? = some y ∧ R x y := by
  induction h generalizing i with
  | nil => cases hx
  | cons hR _ ih =>
      cases i with
      | zero =>
          cases hx
          exact ⟨_, rfl, hR⟩
      | succ i => exact ih hx

/-- The first members of a sort that the relation keeps stand at the same place. -/
theorem find?_of_forall₂ {α β : Type} {R : α → β → Prop} {xs : List α} {ys : List β} {x : α}
    {p : α → Bool} {q : β → Bool} (h : List.Forall₂ R xs ys) (hpq : ∀ x y, R x y → p x = q y)
    (hx : xs.find? p = some x) : ∃ y, ys.find? q = some y ∧ R x y := by
  induction h with
  | nil => cases hx
  | @cons first first' xs ys hR _ ih =>
      cases hfirst : p first with
      | true =>
          rw [List.find?_cons_of_pos hfirst] at hx
          rw [List.find?_cons_of_pos (hpq first first' hR ▸ hfirst)]
          cases hx
          exact ⟨first', rfl, hR⟩
      | false =>
          have hfirst' : q first' = false := hpq first first' hR ▸ hfirst
          rw [List.find?_cons_of_neg (by simp [hfirst])] at hx
          rw [List.find?_cons_of_neg (by simp [hfirst'])]
          exact ih hx

/-- Two lists pair up by what their members have in common. -/
theorem forall₂_of_map_eq {α β γ : Type} {R : α → β → Prop} {f : α → γ} {g : β → γ} {xs : List α}
    {ys : List β} (h : xs.map f = ys.map g) (hR : ∀ x ∈ xs, ∀ y ∈ ys, f x = g y → R x y) :
    List.Forall₂ R xs ys := by
  induction xs generalizing ys with
  | nil =>
      rw [List.map_nil, eq_comm, List.map_eq_nil_iff] at h
      rw [h]
      exact .nil
  | cons x xs ih =>
      cases ys with
      | nil => cases h
      | cons y ys =>
          obtain ⟨hhead, htail⟩ := List.cons.inj h
          refine .cons (hR x List.mem_cons_self y List.mem_cons_self hhead) (ih htail ?_)
          exact fun x' hx' y' hy' =>
            hR x' (List.mem_cons_of_mem _ hx') y' (List.mem_cons_of_mem _ hy')

end Ferry
