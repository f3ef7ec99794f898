import Ferry.Proofs.Document.Token
import Ferry.Proofs.Keyed

set_option autoImplicit false

/-! # Documents that are read are regular

A document that was read keeps numerals, has the members of its objects ascending by key, and has
no more containers inside each other than a text may have (`regular_of_parse?`). An object of it may
have the key that marks a number, but not alone: an object is read as one only if its first key is
another one. -/

namespace Ferry.Document

/-- A document in the form in which documents are read; `depth` bounds the number of containers
    inside each other. -/
inductive Regular : Nat → Document → Prop
  | null {depth : Nat} : Regular depth .null
  | bool {depth : Nat} {value : Bool} : Regular depth (.bool value)
  | number {depth : Nat} {text : String} (h : IsNumeral text) : Regular depth (.number text)
  | string {depth : Nat} {value : String} : Regular depth (.string value)
  | array {depth : Nat} {items : List Document} (hitems : ∀ d ∈ items, Regular depth d) :
      Regular (depth + 1) (.array items)
  | object {depth : Nat} {members : List (String × Document)}
      (hascending : Keyed.Ascending members)
      (hkey : members ≠ [] → ∃ e ∈ members, e.1 ≠ numberMarker)
      (hmembers : ∀ e ∈ members, Regular depth e.2) : Regular (depth + 1) (.object members)

variable {depth : Nat} {cs rest : List Char} {d : Document} {members : List (String × Document)}

theorem regular_emptyObject : Regular (depth + 1) emptyObject :=
  .object .nil (fun h => absurd rfl h) (by simp)

theorem regular_number? {text : String} (h : number? text = some d) : Regular depth d := by
  unfold number? at h
  split at h
  · next kept hread =>
    cases h
    exact .number (isNumeral_of_parseNumber hread)
  · cases h

/-- Whichever value of the first key counts, the key stays. -/
theorem exists_unmarked_ofEntries {key : String} {value : Document}
    {more : List (String × Document)} (hkey : key ≠ numberMarker) :
    ∃ e ∈ Keyed.ofEntries ((key, value) :: more), e.1 ≠ numberMarker := by
  have hfound : Keyed.get? key (Keyed.ofEntries ((key, value) :: more)) ≠ none := by
    rw [Keyed.get?_ofEntries, List.reverse_cons]
    simp [Keyed.get?]
  obtain ⟨last, hlast⟩ := Option.ne_none_iff_exists'.1 hfound
  exact ⟨(key, last), (Keyed.ofEntries_ascending _).get?_eq_some_iff.1 hlast, hkey⟩

theorem regular_ofMembers {key : String} {value : Document} {more : List (String × Document)}
    (hkey : key ≠ numberMarker) (h : ∀ e ∈ (key, value) :: more, Regular depth e.2) :
    Regular (depth + 1) (ofMembers ((key, value) :: more)) :=
  .object (Keyed.ofEntries_ascending _) (fun _ => exists_unmarked_ofEntries hkey)
    (fun e he => h e (Keyed.mem_of_mem_ofEntries he))

theorem regular_closeObject (h : ∀ e ∈ members, Regular depth e.2)
    (hclose : closeObject members = some d) : Regular (depth + 1) d := by
  unfold closeObject at hclose
  split at hclose
  · split_ifs at hclose with hkey
    · split at hclose
      · exact regular_number? hclose
      · cases hclose
    · cases hclose
      exact regular_ofMembers hkey h
  · split_ifs at hclose with hkey
    cases hclose
    exact regular_ofMembers hkey h
  · cases hclose
    exact regular_emptyObject

/-! ## The readers -/

/-- Within a number of steps the readers give regular documents. -/
structure GivesRegular (fuel : Nat) : Prop where
  value {depth : Nat} {cs rest : List Char} {d : Document}
    (h : parseValue fuel depth cs = some (d, rest)) : Regular depth d
  items {depth : Nat} {held : List Document} {cs rest : List Char} {d : Document}
    (hheld : ∀ item ∈ held, Regular depth item)
    (h : parseItems fuel depth held cs = some (d, rest)) : Regular (depth + 1) d
  members {depth : Nat} {held : List (String × Document)} {cs rest : List Char} {d : Document}
    (hheld : ∀ e ∈ held, Regular depth e.2)
    (h : parseMembers fuel depth held cs = some (d, rest)) : Regular (depth + 1) d

theorem GivesRegular.value_succ {fuel : Nat} (ih : GivesRegular fuel)
    (h : parseValue (fuel + 1) depth cs = some (d, rest)) : Regular depth d := by
  simp only [parseValue] at h
  -- One case for each character with which a value can begin.
  split at h
  · cases h
  · obtain ⟨_, -, hout⟩ := Option.map_eq_some_iff.1 h
    cases hout
    exact .string
  · split at h
    · cases h
    · split at h
      · cases h
        exact .array (by simp)
      · exact ih.items (by simp) h
  · split at h
    · cases h
    · split at h
      · cases h
        exact regular_emptyObject
      · exact ih.members (by simp) h
  · obtain ⟨_, -, hout⟩ := Option.map_eq_some_iff.1 h
    cases hout
    exact .null
  · obtain ⟨_, -, hout⟩ := Option.map_eq_some_iff.1 h
    cases hout
    exact .bool
  · obtain ⟨_, -, hout⟩ := Option.map_eq_some_iff.1 h
    cases hout
    exact .bool
  · obtain ⟨_, hread, hout⟩ := Option.map_eq_some_iff.1 h
    cases hout
    exact .number (isNumeral_of_parseNumber hread)

theorem GivesRegular.items_succ {fuel : Nat} {held : List Document} (ih : GivesRegular fuel)
    (hheld : ∀ item ∈ held, Regular depth item)
    (h : parseItems (fuel + 1) depth held cs = some (d, rest)) : Regular (depth + 1) d := by
  simp only [parseItems] at h
  split at h
  · cases h
  · next item more hread =>
    have hall : ∀ other ∈ item :: held, Regular depth other :=
      List.forall_mem_cons.2 ⟨ih.value hread, hheld⟩
    split at h
    · exact ih.items hall h
    · cases h
      exact .array (fun d hd => hall d (List.mem_reverse.1 hd))
    · cases h

theorem GivesRegular.members_succ {fuel : Nat} {held : List (String × Document)}
    (ih : GivesRegular fuel) (hheld : ∀ e ∈ held, Regular depth e.2)
    (h : parseMembers (fuel + 1) depth held cs = some (d, rest)) : Regular (depth + 1) d := by
  simp only [parseMembers] at h
  split at h
  · split at h
    · cases h
    · next key more hkey =>
      split at h
      · split at h
        · cases h
        · next value more hread =>
          have hall : ∀ e ∈ (key, value) :: held, Regular depth e.2 :=
            List.forall_mem_cons.2 ⟨ih.value hread, hheld⟩
          split at h
          · exact ih.members hall h
          · obtain ⟨_, hclose, hout⟩ := Option.map_eq_some_iff.1 h
            cases hout
            exact regular_closeObject (fun e he => hall e (List.mem_reverse.1 he)) hclose
          · cases h
      · cases h
  · cases h

/-- Whatever the readers give is regular; by induction on the number of their steps. -/
theorem givesRegular (fuel : Nat) : GivesRegular fuel := by
  induction fuel with
  | zero =>
      constructor
      case value => intro _ _ _ _ h; cases h
      case items => intro _ _ _ _ _ _ h; cases h
      case members => intro _ _ _ _ _ _ h; cases h
  | succ fuel ih => exact ⟨ih.value_succ, ih.items_succ, ih.members_succ⟩

/-- A document that was read is regular. -/
theorem regular_of_parse? {s : String} (h : parse? s = some d) : Regular maxDepth d := by
  unfold parse? at h
  dsimp only at h
  split at h
  · next d' more hread =>
    split_ifs at h
    cases h
    exact (givesRegular _).value hread
  · cases h

end Ferry.Document
