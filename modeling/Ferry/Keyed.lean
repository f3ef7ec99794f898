set_option autoImplicit false

/-! # Lists by key

Lists of values under text keys that are ascending and free of repeated keys. -/

namespace Ferry.Keyed

/-- Enter a value into an ascending list, in place of one with an equal key. -/
def put {α : Type} (key : String) (value : α) : List (String × α) → List (String × α)
  | [] => [(key, value)]
  | (k, v) :: rest =>
    if key = k then (key, value) :: rest
    else if key < k then (key, value) :: (k, v) :: rest
    else (k, v) :: put key value rest

/-- The keys are ascending, so no key occurs twice. -/
def Ascending {α : Type} (entries : List (String × α)) : Prop :=
  entries.Pairwise (fun a b => a.1 < b.1)

section
variable {α : Type} {key : String} {value : α} {e : String × α} {entries : List (String × α)}

theorem mem_put (h : e ∈ put key value entries) : e = (key, value) ∨ e ∈ entries := by
  induction entries with
  | nil => exact .inl (List.mem_singleton.1 h)
  | cons first rest ih =>
      simp only [put] at h
      split at h
      · exact (List.mem_cons.1 h).imp_right (List.mem_cons_of_mem _)
      · split at h
        · exact List.mem_cons.1 h
        · rcases List.mem_cons.1 h with rfl | h
          · exact .inr List.mem_cons_self
          · exact (ih h).imp_right (List.mem_cons_of_mem _)

/-- Entering a value keeps a list ascending. -/
theorem Ascending.put (h : Ascending entries) : Ascending (put key value entries) := by
  induction entries with
  | nil => exact List.pairwise_singleton _ _
  | cons first rest ih =>
      obtain ⟨hfirst, hrest⟩ := List.pairwise_cons.1 h
      simp only [Keyed.put]
      split
      · next hsame => exact List.pairwise_cons.2 ⟨fun e he => hsame ▸ hfirst e he, hrest⟩
      · next hsame =>
          split
          · next hbefore =>
              refine List.pairwise_cons.2 ⟨fun e he => ?_, h⟩
              rcases List.mem_cons.1 he with rfl | he
              · exact hbefore
              · exact String.lt_trans hbefore (hfirst e he)
          · next hbefore =>
              refine List.pairwise_cons.2 ⟨fun e he => ?_, ih hrest⟩
              rcases mem_put he with rfl | he
              · exact Std.lt_of_le_of_ne (String.not_lt.1 hbefore) (Ne.symm hsame)
              · exact hfirst e he

end

/-- The ascending list of some entries; of several with one key the last one counts. -/
def ofEntries {α : Type} (entries : List (String × α)) : List (String × α) :=
  entries.foldl (fun acc e => put e.1 e.2 acc) []

/-- The value under a key. -/
def get? {α : Type} (key : String) (entries : List (String × α)) : Option α :=
  (entries.find? (fun e => e.1 == key)).map (·.2)

end Ferry.Keyed
