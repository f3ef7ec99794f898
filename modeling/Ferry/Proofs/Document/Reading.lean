import Ferry.Proofs.Document.Regular

set_option autoImplicit false

/-! # Compact texts are read back

A regular document is read back from its compact text, unless an object of it begins with the key
that marks a number: such an object is taken for a number by the reader, and refused
(`parse?_compact`). The members of an object are written in the order of their keys, so an object
may begin with that key in its compact text although it did not in the text that it was read
from. -/

namespace Ferry.Document

/-! ## Plain documents -/

/-- The first key of an object is the one that marks a number. -/
def isMarked : List (String × Document) → Bool
  | [] => false
  | (key, _) :: _ => key == numberMarker

mutual

/-- No object of the document begins with the key that marks a number. -/
def isPlain : Document → Bool
  | .array items => itemsPlain items
  | .object members => !isMarked members && membersPlain members
  | _ => true

/-- The items of an array are plain. -/
def itemsPlain : List Document → Bool
  | [] => true
  | d :: rest => isPlain d && itemsPlain rest

/-- The values of the members of an object are plain. -/
def membersPlain : List (String × Document) → Bool
  | [] => true
  | (_, d) :: rest => isPlain d && membersPlain rest

end

/-! ## Compact texts -/

/-- The items of an array as they are written. -/
def itemsText (items : List Document) : List Char := (Text.join "," (compactItems items)).toList

/-- The members of an object as they are written. -/
def membersText (members : List (String × Document)) : List Char :=
  (Text.join "," (compactMembers members)).toList

section
variable {depth fuel : Nat} {d : Document} {items : List Document} {held : List Document}
  {members before : List (String × Document)} {key s : String} {c : Char} {cs rest : List Char}

theorem toList_stringText : (stringText s).toList = '"' :: (s.toList.flatMap stringChar ++ ['"']) :=
  String.toList_ofList

theorem toList_array : (compact (.array items)).toList = '[' :: (itemsText items ++ [']']) := by
  simp [compact, itemsText]

theorem toList_object :
    (compact (.object members)).toList = '\x7b' :: (membersText members ++ ['\x7d']) := by
  simp [compact, membersText]

theorem itemsText_singleton : itemsText [d] = d.compact.toList := rfl

theorem itemsText_cons (h : items ≠ []) :
    itemsText (d :: items) = d.compact.toList ++ ',' :: itemsText items := by
  cases items with
  | nil => exact absurd rfl h
  | cons e items => simp [itemsText, compactItems, Text.join_cons_cons]

theorem membersText_singleton :
    membersText [(key, d)]
      = '"' :: (key.toList.flatMap stringChar ++ '"' :: ':' :: d.compact.toList) := by
  simp [membersText, compactMembers, Text.join_singleton, toList_stringText]

theorem membersText_cons (h : members ≠ []) :
    membersText ((key, d) :: members)
      = membersText [(key, d)] ++ ',' :: membersText members := by
  cases members with
  | nil => exact absurd rfl h
  | cons e members =>
      obtain ⟨k, v⟩ := e
      simp [membersText, compactMembers, Text.join_cons_cons, Text.join_singleton]

/-- A character with which a value begins. -/
def isOpening (c : Char) : Bool :=
  c = '"' || c = '[' || c = '\x7b' || c = 'n' || c = 't' || c = 'f' || c = '-' || Text.isDigit c

theorem Regular.head (h : Regular depth d) :
    ∃ c more, d.compact.toList = c :: more ∧ isOpening c := by
  cases h with
  | null => exact ⟨'n', _, rfl, rfl⟩
  | @bool _ value => cases value <;> exact ⟨_, _, rfl, rfl⟩
  | number htext =>
      obtain ⟨c, more, htext, hc⟩ := htext.head
      refine ⟨c, more, htext, ?_⟩
      rcases hc with rfl | hc
      · rfl
      · simp [isOpening, hc]
  | string => exact ⟨'"', _, toList_stringText, rfl⟩
  | array => exact ⟨'[', _, toList_array, rfl⟩
  | object => exact ⟨'\x7b', _, toList_object, rfl⟩

theorem skipBlank_of_opening (h : isOpening c) : skipBlank (c :: cs) = c :: cs := by
  have hblank : ¬ (c = ' ' ∨ c = '\n' ∨ c = '\t' ∨ c = '\r') := by
    rintro (rfl | rfl | rfl | rfl) <;> cases h
  refine List.dropWhile_cons_of_neg ?_
  simpa [or_assoc] using hblank

theorem skipBlank_of_ends (h : Ends cs) : skipBlank cs = cs := by
  cases cs with
  | nil => rfl
  | cons c cs => rcases h c rfl with rfl | rfl | rfl <;> rfl

/-! ## Reading values -/

/-- With enough steps a value is read back from its compact text if it is plain, and refused if it
    is not. -/
def ReadsBack (depth : Nat) (d : Document) : Prop :=
  ∀ fuel rest, 2 * d.compact.toList.length ≤ fuel → Ends rest →
    parseValue fuel depth (d.compact.toList ++ rest) = if d.isPlain then some (d, rest) else none

theorem parseItems_itemsText (h : ∀ d ∈ items, ReadsBack depth d) (hitems : items ≠ [])
    (hfuel : 2 * (itemsText items).length < fuel) :
    parseItems fuel depth held (itemsText items ++ ']' :: rest)
      = if itemsPlain items then some (.array (held.reverse ++ items), rest) else none := by
  induction items generalizing fuel held with
  | nil => exact absurd rfl hitems
  | cons d more ih =>
      obtain ⟨hd, hmore⟩ := List.forall_mem_cons.1 h
      cases fuel with
      | zero => exact absurd hfuel (Nat.not_lt_zero _)
      | succ fuel =>
          by_cases hlast : more = []
          · subst hlast
            rw [itemsText_singleton] at hfuel ⊢
            rw [parseItems, hd fuel _ (by omega) (ends_cons (.inr (.inl rfl)))]
            cases hplain : d.isPlain <;>
              simp [hplain, itemsPlain, skipBlank_of_ends (ends_cons (.inr (.inl rfl)))]
          · rw [itemsText_cons hlast] at hfuel ⊢
            rw [List.length_append, List.length_cons] at hfuel
            rw [List.append_assoc, List.cons_append, parseItems,
              hd fuel _ (by omega) (ends_cons (.inl rfl))]
            cases hplain : d.isPlain with
            | false => simp [hplain, itemsPlain]
            | true =>
                have hrest : parseItems fuel depth (d :: held) _ = _ := ih hmore hlast (by omega)
                simp only [if_true, skipBlank_of_ends (ends_cons (.inl rfl)), hrest]
                simp [hplain, itemsPlain]

/-- One round over the members of an object. -/
theorem parseMembers_member (h : ReadsBack depth d) (hfuel : 2 * d.compact.toList.length ≤ fuel)
    (hrest : Ends rest) :
    parseMembers (fuel + 1) depth before (membersText [(key, d)] ++ rest)
      = if d.isPlain then
          match rest with
          | ',' :: more => parseMembers fuel depth ((key, d) :: before) more
          | '\x7d' :: more => (closeObject ((key, d) :: before).reverse).map (fun d => (d, more))
          | _ => none
        else none := by
  have hcolon : ∀ cs, skipBlank (':' :: cs) = ':' :: cs := fun cs => rfl
  rw [membersText_singleton, List.cons_append, List.append_assoc, List.cons_append,
    List.cons_append, parseMembers, skipBlank_of_opening rfl]
  simp only [parseString_stringText, hcolon, h fuel rest hfuel hrest]
  cases d.isPlain with
  | false => rfl
  | true =>
      show (match skipBlank rest with
        | ',' :: more => parseMembers fuel depth ((key, d) :: before) more
        | '\x7d' :: more => (closeObject ((key, d) :: before).reverse).map (fun d => (d, more))
        | _ => none) = _
      rw [skipBlank_of_ends hrest]
      rfl

theorem parseMembers_membersText (h : ∀ e ∈ members, ReadsBack depth e.2) (hmembers : members ≠ [])
    (hfuel : 2 * (membersText members).length < fuel) :
    parseMembers fuel depth before (membersText members ++ '\x7d' :: rest)
      = if membersPlain members then
          (closeObject (before.reverse ++ members)).map (fun d => (d, rest))
        else none := by
  induction members generalizing fuel before with
  | nil => exact absurd rfl hmembers
  | cons e more ih =>
      obtain ⟨key, d⟩ := e
      obtain ⟨hd, hmore⟩ := List.forall_mem_cons.1 h
      have hd : ReadsBack depth d := hd
      have hlength : d.compact.toList.length < (membersText [(key, d)]).length := by
        rw [membersText_singleton]
        simp only [List.length_cons, List.length_append]
        omega
      cases fuel with
      | zero => exact absurd hfuel (Nat.not_lt_zero _)
      | succ fuel =>
          by_cases hlast : more = []
          · subst hlast
            rw [parseMembers_member hd (by omega) (ends_cons (.inr (.inr rfl)))]
            cases hplain : d.isPlain <;> simp [hplain, membersPlain]
          · rw [membersText_cons hlast] at hfuel ⊢
            rw [List.length_append, List.length_cons] at hfuel
            rw [List.append_assoc, List.cons_append,
              parseMembers_member hd (by omega) (ends_cons (.inl rfl))]
            cases hplain : d.isPlain with
            | false => simp [hplain, membersPlain]
            | true =>
                have hrest : parseMembers fuel depth ((key, d) :: before) _ = _ :=
                  ih hmore hlast (by omega)
                simp only [if_true, hrest]
                simp [hplain, membersPlain]

theorem closeObject_eq (hascending : Keyed.Ascending members)
    (hkey : members ≠ [] → ∃ e ∈ members, e.1 ≠ numberMarker) :
    closeObject members = if isMarked members then none else some (.object members) := by
  have hkept : ofMembers members = .object members :=
    congrArg Document.object (Keyed.ofEntries_of_ascending hascending)
  match members with
  | [] => rfl
  | [(key, value)] =>
      obtain ⟨e, he, hne⟩ := hkey (List.cons_ne_nil _ _)
      cases List.mem_singleton.1 he
      simp [closeObject, isMarked, hne, hkept]
  | (key, value) :: second :: more =>
      by_cases hmarked : key = numberMarker <;> simp [closeObject, isMarked, hmarked, ← hkept]

/-! ## Reading documents -/

theorem parseValue_number {text : String} (h : IsNumeral text) (hrest : Ends rest) :
    parseValue (fuel + 1) depth (text.toList ++ rest) = some (.number text, rest) := by
  obtain ⟨c, more, htext, hc⟩ := h.head
  have hopening : isOpening c := by
    rcases hc with rfl | hc
    · rfl
    · simp [isOpening, hc]
  have hread := parseNumber_append h hrest
  rw [htext, List.cons_append] at hread ⊢
  -- No digit and no minus sign begins a value of another form.
  have hother : ∀ {first tail tail'}, c :: tail = first :: tail' →
      Text.isDigit first = false → first = '-' := by
    rintro first tail tail' hsame hfirst
    obtain ⟨rfl, -⟩ := List.cons.inj hsame
    exact hc.resolve_right (by simp [hfirst])
  rw [parseValue, skipBlank_of_opening hopening]
  split
  · next hsame => cases hsame
  all_goals try next hsame => exact absurd (hother hsame rfl) (by decide)
  next hsame =>
  cases hsame
  rw [hread]
  rfl

/-- A value is not empty, so there is at least one step. -/
theorem readsBack_of_succ (h : Regular depth d)
    (hread : ∀ fuel rest, 2 * d.compact.toList.length ≤ fuel + 1 → Ends rest →
      parseValue (fuel + 1) depth (d.compact.toList ++ rest)
        = if d.isPlain then some (d, rest) else none) : ReadsBack depth d := by
  intro fuel rest hfuel hrest
  cases fuel with
  | zero =>
      obtain ⟨c, more, htext, -⟩ := h.head
      rw [htext, List.length_cons] at hfuel
      omega
  | succ fuel => exact hread fuel rest hfuel hrest

theorem readsBack_array (hitems : ∀ d ∈ items, Regular depth d)
    (h : ∀ d ∈ items, ReadsBack depth d) : ReadsBack (depth + 1) (.array items) := by
  refine readsBack_of_succ (.array hitems) (fun fuel rest hfuel _ => ?_)
  rw [toList_array, List.length_cons, List.length_append, List.length_singleton] at hfuel
  rw [toList_array, List.cons_append, List.append_assoc, List.singleton_append, parseValue,
    skipBlank_of_opening rfl]
  cases items with
  | nil => rfl
  | cons d more =>
      have hread : parseItems fuel depth [] (itemsText (d :: more) ++ ']' :: rest) = _ :=
        parseItems_itemsText h (List.cons_ne_nil d more) (by omega)
      obtain ⟨c, tail, htext, hc⟩ : ∃ c tail, itemsText (d :: more) = c :: tail ∧ isOpening c := by
        obtain ⟨c, tail, htext, hc⟩ := (hitems d List.mem_cons_self).head
        by_cases hlast : more = []
        · exact ⟨c, tail, by rw [hlast, itemsText_singleton, htext], hc⟩
        · exact ⟨c, _, by rw [itemsText_cons hlast, htext]; rfl, hc⟩
      rw [htext, List.cons_append] at hread ⊢
      simp only [skipBlank_of_opening hc]
      split
      · next hclosed =>
        cases hclosed
        cases hc
      · rw [hread]
        rfl

theorem readsBack_object (hascending : Keyed.Ascending members)
    (hkey : members ≠ [] → ∃ e ∈ members, e.1 ≠ numberMarker)
    (hmembers : ∀ e ∈ members, Regular depth e.2) (h : ∀ e ∈ members, ReadsBack depth e.2) :
    ReadsBack (depth + 1) (.object members) := by
  refine readsBack_of_succ (.object hascending hkey hmembers) (fun fuel rest hfuel _ => ?_)
  rw [toList_object, List.length_cons, List.length_append, List.length_singleton] at hfuel
  rw [toList_object, List.cons_append, List.append_assoc, List.singleton_append, parseValue,
    skipBlank_of_opening rfl]
  cases members with
  | nil => rfl
  | cons e more =>
      have hread : parseMembers fuel depth [] (membersText (e :: more) ++ '\x7d' :: rest) = _ :=
        parseMembers_membersText h (List.cons_ne_nil e more) (by omega)
      obtain ⟨tail, htext⟩ : ∃ tail, membersText (e :: more) = '"' :: tail := by
        by_cases hlast : more = []
        · exact ⟨_, by rw [hlast, membersText_singleton]⟩
        · exact ⟨_, by rw [membersText_cons hlast, membersText_singleton]; rfl⟩
      rw [htext, List.cons_append] at hread ⊢
      rw [List.reverse_nil, List.nil_append, closeObject_eq hascending hkey] at hread
      simp only [skipBlank_of_opening (c := '"') rfl]
      refine hread.trans ?_
      rw [isPlain]
      cases isMarked (e :: more) <;> cases membersPlain (e :: more) <;> rfl

/-- A regular document is read back from its compact text just when it is plain. -/
theorem Regular.readsBack (h : Regular depth d) : ReadsBack depth d := by
  induction h with
  | null => exact readsBack_of_succ .null (fun _ _ _ _ => rfl)
  | @bool _ value => exact readsBack_of_succ .bool (fun _ _ _ _ => by cases value <;> rfl)
  | number htext =>
      exact readsBack_of_succ (.number htext) (fun _ _ _ hrest => parseValue_number htext hrest)
  | string =>
      refine readsBack_of_succ .string (fun fuel rest _ _ => ?_)
      rw [compact, toList_stringText, List.cons_append, parseValue, skipBlank_of_opening rfl]
      simp [parseString_stringText, isPlain]
  | array hitems ih => exact readsBack_array hitems ih
  | object hascending hkey hmembers ih => exact readsBack_object hascending hkey hmembers ih

end

/-- The compact text of a regular document is read as that document if it is plain, and is no
    document if it is not. -/
theorem parse?_compact {d : Document} (h : Regular maxDepth d) :
    parse? d.compact = if d.isPlain then some d else none := by
  have hread := h.readsBack (2 * d.compact.toList.length + 2) [] (by omega) ends_nil
  rw [List.append_nil] at hread
  rw [parse?]
  simp only [hread]
  cases d.isPlain <;> rfl

end Ferry.Document
