import Ferry.Keyed
import Mathlib.Data.List.Induction
import Mathlib.Data.String.Basic

set_option autoImplicit false

/-! # What is found in a list by key

What is found under a key is what was entered last (`get?_put`, `get?_ofEntries`), and in an
ascending list it is the one value of the key. A list that is ascending already is its own list by
key (`ofEntries_of_ascending`). -/

namespace Ferry.Keyed

variable {α : Type} {key name : String} {value : α} {e : String × α} {entries : List (String × α)}

/-! ## Entering a value -/

theorem get?_cons :
    get? name (e :: entries) = if e.1 = name then some e.2 else get? name entries := by
  by_cases h : e.1 = name <;> simp [get?, h]

theorem get?_append {more : List (String × α)} :
    get? name (entries ++ more) = (get? name entries).or (get? name more) := by
  simp [get?, Option.map_or]

theorem get?_put :
    get? name (put key value entries) = if key = name then some value else get? name entries := by
  induction entries with
  | nil => exact get?_cons
  | cons first rest ih =>
      obtain ⟨k, v⟩ := first
      simp only [put]
      by_cases hsame : key = k
      · subst hsame
        rw [if_pos rfl, get?_cons, get?_cons]
        split_ifs <;> rfl
      · rw [if_neg hsame]
        by_cases hbefore : key < k
        · rw [if_pos hbefore, get?_cons]
        · rw [if_neg hbefore, get?_cons, ih, get?_cons]
          by_cases hname : key = name
          · rw [if_pos hname, if_neg (fun hk => hsame (hname.trans hk.symm)), if_pos hname]
          · rw [if_neg hname, if_neg hname]

/-- A value whose key is behind all others comes last. -/
theorem put_of_last (h : ∀ e ∈ entries, e.1 < key) :
    put key value entries = entries ++ [(key, value)] := by
  induction entries with
  | nil => rfl
  | cons first rest ih =>
      have hfirst : first.1 < key := h first List.mem_cons_self
      simp only [put, if_neg hfirst.ne', if_neg hfirst.asymm, List.cons_append]
      rw [ih (fun e he => h e (List.mem_cons_of_mem _ he))]

/-! ## The list of some entries -/

theorem ofEntries_concat :
    ofEntries (entries ++ [e]) = put e.1 e.2 (ofEntries entries) := List.foldl_concat ..

theorem ofEntries_ascending (entries : List (String × α)) : Ascending (ofEntries entries) := by
  induction entries using List.reverseRecOn with
  | nil => exact .nil
  | append_singleton before e ih => exact ofEntries_concat ▸ ih.put

/-- Of several values with one key the last one counts. -/
theorem get?_ofEntries : get? name (ofEntries entries) = get? name entries.reverse := by
  induction entries using List.reverseRecOn with
  | nil => rfl
  | append_singleton before e ih =>
      rw [ofEntries_concat, get?_put, ih, List.reverse_concat, get?_cons]

theorem mem_of_mem_ofEntries (h : e ∈ ofEntries entries) : e ∈ entries := by
  induction entries using List.reverseRecOn with
  | nil => exact h
  | append_singleton before last ih =>
      rw [ofEntries_concat] at h
      rcases mem_put h with rfl | h
      · exact List.mem_append_right _ List.mem_cons_self
      · exact List.mem_append_left _ (ih h)

theorem ofEntries_of_ascending (h : Ascending entries) : ofEntries entries = entries := by
  induction entries using List.reverseRecOn with
  | nil => rfl
  | append_singleton before last ih =>
      obtain ⟨hbefore, -, hlast⟩ := List.pairwise_append.1 h
      rw [ofEntries_concat, ih hbefore]
      exact put_of_last (fun e he => hlast e he last List.mem_cons_self)

/-! ## Finding a value -/

theorem Ascending.get?_eq_some_iff (h : Ascending entries) :
    get? key entries = some value ↔ (key, value) ∈ entries := by
  induction entries with
  | nil => simp [get?]
  | cons first rest ih =>
      obtain ⟨hfirst, hrest⟩ := List.pairwise_cons.1 h
      obtain ⟨k, v⟩ := first
      rw [get?_cons, List.mem_cons]
      by_cases hk : k = key
      · subst hk
        have hfresh : (k, value) ∉ rest := fun hmem => lt_irrefl k (hfirst (k, value) hmem)
        simp [hfresh, eq_comm]
      · simp [hk, ih hrest, Ne.symm hk]

end Ferry.Keyed
