import Ferry.Identifier
import Ferry.Proofs.Outcome

set_option autoImplicit false

/-! # Which names can be quoted

A name can be quoted if it is not empty, has no NUL character and is short enough. Several names can
be quoted if each of them can, whatever stands between them; the error is that of the first that
cannot. -/

namespace Ferry.Identifier

/-- A name that can stand in a statement. -/
def Usable (name : String) : Prop := check name = .ok ()

variable {name schema table q : String} {names qs : List String} {e : MigrationError}

theorem usable_iff : Usable name ↔ issue? name = none := by
  rw [Usable, check]
  cases issue? name <;> simp

instance : Decidable (Usable name) := decidable_of_iff _ usable_iff.symm

/-- What a name needs to stand in a statement. -/
theorem usable_iff_short : Usable name ↔
    name ≠ "" ∧ '\x00' ∉ name.toList ∧ name.utf8ByteSize ≤ maxBytes := by
  rw [usable_iff, issue?]
  by_cases hempty : name = ""
  · simp [hempty]
  · by_cases hnul : '\x00' ∈ name.toList
    · simp [hempty, hnul]
    · by_cases hlong : maxBytes < name.utf8ByteSize
      · simp [hempty, hnul, hlong]
      · simpa [hempty, hnul, hlong] using Nat.le_of_not_lt hlong

/-! ## One name -/

theorem quote_eq_ok_iff : quote name = .ok q ↔ Usable name ∧ q = quotedForm name := by
  rw [quote, map_eq_ok_iff]
  constructor
  · rintro ⟨u, hcheck, rfl⟩
    exact ⟨hcheck, rfl⟩
  · rintro ⟨hcheck, rfl⟩
    exact ⟨(), hcheck, rfl⟩

theorem quote_isOk_iff : (quote name).isOk ↔ Usable name := by
  simp only [isOk_iff, quote_eq_ok_iff, exists_and_left, exists_eq, and_true]

theorem quote_eq_error_iff :
    quote name = .error e ↔ ∃ issue, issue? name = some issue ∧ e = .config issue.message := by
  rw [quote, check]
  cases issue? name with
  | none => simp [Except.map]
  | some issue => simp [Except.map, eq_comm]

/-! ## Several names -/

/-- The first of the names that cannot be quoted. -/
def firstBad? (names : List String) : Option String :=
  names.find? (fun name => !(quote name).isOk)

theorem quoteEach_eq_ok_iff : quoteEach names = .ok qs ↔
    (∀ name ∈ names, Usable name) ∧ qs = names.map quotedForm := by
  induction names generalizing qs with
  | nil => simp [quoteEach, eq_comm]
  | cons name rest ih =>
      simp only [quoteEach, bind_eq_ok_iff, pure_eq_ok_iff, quote_eq_ok_iff, ih,
        List.forall_mem_cons, List.map_cons]
      constructor
      · rintro ⟨q, ⟨hq, rfl⟩, others, ⟨hothers, rfl⟩, rfl⟩
        exact ⟨⟨hq, hothers⟩, rfl⟩
      · rintro ⟨⟨hq, hothers⟩, rfl⟩
        exact ⟨_, ⟨hq, rfl⟩, _, ⟨hothers, rfl⟩, rfl⟩

/-- The first name that cannot be quoted makes the error. -/
theorem quoteEach_eq_error_iff : quoteEach names = .error e ↔
    ∃ bad, firstBad? names = some bad ∧ quote bad = .error e := by
  induction names with
  | nil => simp [quoteEach, firstBad?]
  | cons name rest ih =>
      by_cases hname : Usable name
      · have hquote : quote name = .ok (quotedForm name) := quote_eq_ok_iff.2 ⟨hname, rfl⟩
        have hfirst : firstBad? (name :: rest) = firstBad? rest :=
          List.find?_cons_of_neg (by simpa [quote_isOk_iff] using hname)
        rw [hfirst, ← ih, quoteEach, hquote]
        cases quoteEach rest <;> simp [bind, Except.bind, pure, Except.pure]
      · have hfirst : firstBad? (name :: rest) = some name :=
          List.find?_cons_of_pos (by simpa [← quote_isOk_iff] using hname)
        rw [hfirst, quoteEach]
        cases hquote : quote name with
        | ok q => exact absurd (quote_eq_ok_iff.1 hquote).1 hname
        | error e' => simp [bind, Except.bind, hquote]

theorem qualify_eq (schema table : String) :
    qualify schema table = (quoteEach [schema, table]).map (Text.join ".") := by
  simp only [qualify, quoteEach]
  cases quote schema with
  | error e => rfl
  | ok s => cases quote table <;> rfl

theorem qualify_eq_ok_iff : qualify schema table = .ok q ↔
    (Usable schema ∧ Usable table) ∧ q = quotedForm schema ++ "." ++ quotedForm table := by
  simp only [qualify, bind_eq_ok_iff, pure_eq_ok_iff, quote_eq_ok_iff]
  constructor
  · rintro ⟨s, ⟨hs, rfl⟩, t, ⟨ht, rfl⟩, rfl⟩
    exact ⟨⟨hs, ht⟩, rfl⟩
  · rintro ⟨⟨hs, ht⟩, rfl⟩
    exact ⟨_, ⟨hs, rfl⟩, _, ⟨ht, rfl⟩, rfl⟩

/-- Quoted names with commas between. -/
def quotedNames (names : List String) : String := Text.join ", " (names.map quotedForm)

theorem quoteList_eq_ok_iff : quoteList names = .ok q ↔
    (∀ name ∈ names, Usable name) ∧ q = quotedNames names := by
  rw [quoteList, map_eq_ok_iff]
  simp only [quoteEach_eq_ok_iff]
  constructor
  · rintro ⟨qs, ⟨husable, rfl⟩, rfl⟩
    exact ⟨husable, rfl⟩
  · rintro ⟨husable, rfl⟩
    exact ⟨_, ⟨husable, rfl⟩, rfl⟩

end Ferry.Identifier
