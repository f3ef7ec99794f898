import Ferry.Proofs.Yaml.Block

set_option autoImplicit false

/-! # How outlines are written

The lines of an outline, with the end of the last one: the items of a list and the entries of
fields stand behind each other at an indentation (`chars_list_cons`, `chars_fields_cons`). How an
outline is written tells its shape, at whatever indentation (`shape_eq`). -/

namespace Ferry.Yaml

/-! ## Lines at an indentation -/

/-- Texts behind each other, each at an indentation and with the end of its last line. -/
def rows (indent : Nat) (texts : List String) : List Char :=
  texts.flatMap (fun s => List.replicate indent ' ' ++ ended s)

section
variable {indent : Nat} {s : String} {texts : List String} {rest rest' : List Char}

theorem rows_cons (indent : Nat) (s : String) (texts : List String) :
    rows indent (s :: texts) = List.replicate indent ' ' ++ (ended s ++ rows indent texts) := by
  rw [rows, List.flatMap_cons, List.append_assoc]
  rfl

theorem joinLines_ne (hs : s ≠ "") (texts : List String) : joinLines indent (s :: texts) ≠ "" := by
  cases texts with
  | nil => exact hs
  | cons t texts =>
      rw [joinLines]
      simp [hs]

theorem replicate_append_ended_joinLines (indent : Nat) (s : String) (h : ∀ t ∈ texts, t ≠ "") :
    List.replicate indent ' ' ++ ended (joinLines indent (s :: texts))
      = rows indent (s :: texts) := by
  induction texts generalizing s with
  | nil => simp [joinLines, rows]
  | cons t texts ih =>
      obtain ⟨ht, htexts⟩ := List.forall_mem_cons.1 h
      have hline : (s ++ if s.toList.getLast?.any isBreak then "" else "\n").toList = ended s := by
        rw [ended, String.toList_append]
        split <;> rfl
      rw [joinLines, ended_append (joinLines_ne ht texts), String.toList_append, hline,
        toList_margin, rows_cons, ← ih t htexts, List.append_assoc]

end

namespace Outline

/-! ## What is written of an outline -/

/-- What an outline is written as at an indentation, with the end of its last line. -/
def chars (indent : Nat) (o : Outline) : List Char := ended (o.textAt indent)

/-- The indentation of what stands behind a sign and a blank. -/
def inner (indent : Nat) (o : Outline) : Nat := if o.isOpen then indent + 2 else indent

/-- The item of a list. -/
def itemText (indent : Nat) (o : Outline) : String := "- " ++ o.textAt (o.inner indent)

/-- What stands behind a key and its colon. -/
def valueText (indent : Nat) : Outline → String
  | list (o :: rest) => "\n" ++ margin indent ++ textAt indent (list (o :: rest))
  | fields (e :: rest) => "\n" ++ margin (indent + 2) ++ textAt (indent + 2) (fields (e :: rest))
  | o => " " ++ textAt indent o

/-- An entry of fields. -/
def entryText (indent : Nat) (e : String × Outline) : String :=
  if isSimpleKey e.1 then simpleKey e.1 ++ ":" ++ valueText indent e.2
  else
    joinLines indent
      ["? " ++ Yaml.textAt (indent + 2) e.1, ": " ++ e.2.textAt (e.2.inner indent)]

section
variable {indent : Nat} {o : Outline} {items : List Outline} {e : String × Outline}
  {entries : List (String × Outline)}

theorem itemTexts_eq (indent : Nat) (items : List Outline) :
    itemTexts indent items = items.map (itemText indent) := by
  induction items with
  | nil => rw [itemTexts, List.map_nil]
  | cons o rest ih =>
      rw [itemTexts, ih, List.map_cons, itemText, inner]
      split <;> rfl

theorem entryTexts_eq (indent : Nat) (entries : List (String × Outline)) :
    entryTexts indent entries = entries.map (entryText indent) := by
  induction entries with
  | nil => rw [entryTexts, List.map_nil]
  | cons e rest ih =>
      obtain ⟨key, o⟩ := e
      rw [entryTexts.eq_def]
      dsimp only
      rw [ih, List.map_cons, entryText, inner]
      congr 1
      split
      · congr 1
      · split <;> rfl

theorem itemText_ne (o : Outline) : itemText indent o ≠ "" := by
  simp [itemText]

theorem entryText_ne (e : String × Outline) : entryText indent e ≠ "" := by
  unfold entryText
  split
  · simp
  · exact joinLines_ne (by simp) _

theorem margin_append_chars_list (indent : Nat) (o : Outline) (rest : List Outline) :
    List.replicate indent ' ' ++ chars indent (.list (o :: rest))
      = rows indent ((o :: rest).map (itemText indent)) := by
  rw [chars, textAt, itemTexts_eq, List.map_cons, replicate_append_ended_joinLines]
  rintro t ht
  obtain ⟨o, -, rfl⟩ := List.mem_map.1 ht
  exact itemText_ne o

theorem margin_append_chars_fields (indent : Nat) (e : String × Outline)
    (rest : List (String × Outline)) :
    List.replicate indent ' ' ++ chars indent (.fields (e :: rest))
      = rows indent ((e :: rest).map (entryText indent)) := by
  rw [chars, textAt, entryTexts_eq, List.map_cons, replicate_append_ended_joinLines]
  rintro t ht
  obtain ⟨e, -, rfl⟩ := List.mem_map.1 ht
  exact entryText_ne e

theorem ended_itemText (o : Outline) :
    ended (itemText indent o) = '-' :: ' ' :: chars (o.inner indent) o :=
  ended_append_of_begun (by decide)

theorem chars_list_cons (indent : Nat) (o : Outline) (rest : List Outline) :
    chars indent (.list (o :: rest))
      = '-' :: ' ' :: (chars (o.inner indent) o ++ rows indent (rest.map (itemText indent))) := by
  have hrows := margin_append_chars_list indent o rest
  rw [List.map_cons, rows_cons, ended_itemText] at hrows
  exact List.append_cancel_left hrows

theorem chars_fields_cons (indent : Nat) (e : String × Outline) (rest : List (String × Outline)) :
    chars indent (.fields (e :: rest))
      = ended (entryText indent e) ++ rows indent (rest.map (entryText indent)) := by
  have hrows := margin_append_chars_fields indent e rest
  rw [List.map_cons, rows_cons] at hrows
  exact List.append_cancel_left hrows

theorem textAt_list_ne (o : Outline) (rest : List Outline) :
    textAt indent (.list (o :: rest)) ≠ "" := by
  rw [textAt, itemTexts_eq, List.map_cons]
  exact joinLines_ne (itemText_ne o) _

theorem textAt_fields_ne (e : String × Outline) (rest : List (String × Outline)) :
    textAt indent (.fields (e :: rest)) ≠ "" := by
  rw [textAt, entryTexts_eq, List.map_cons]
  exact joinLines_ne (entryText_ne e) _

theorem ended_valueText_list (indent : Nat) (o : Outline) (rest : List Outline) :
    ended (valueText indent (.list (o :: rest)))
      = '\n' :: (List.replicate indent ' ' ++ chars indent (.list (o :: rest))) := by
  rw [valueText, ended_append (textAt_list_ne o rest), String.toList_append, toList_margin]
  rfl

theorem ended_valueText_fields (indent : Nat) (e : String × Outline)
    (rest : List (String × Outline)) : ended (valueText indent (.fields (e :: rest)))
      = '\n' :: (List.replicate (indent + 2) ' ' ++ chars (indent + 2) (.fields (e :: rest))) := by
  rw [valueText, ended_append (textAt_fields_ne e rest), String.toList_append, toList_margin]
  rfl

theorem ended_valueText_of_closed (h : o.isOpen = false) :
    ended (valueText indent o) = ' ' :: chars indent o := by
  have htext : valueText indent o = " " ++ textAt indent o := by
    unfold valueText
    split <;> first | rfl | cases h
  rw [htext, ended_append_of_begun (by decide)]
  rfl

theorem eq_of_isOpen (h : o.isOpen = true) :
    (∃ first rest, o = .list (first :: rest)) ∨ ∃ first rest, o = .fields (first :: rest) := by
  rcases o with _ | _ | (_ | ⟨first, rest⟩) | (_ | ⟨first, rest⟩)
  · cases h
  · cases h
  · cases h
  · exact .inl ⟨first, rest, rfl⟩
  · cases h
  · exact .inr ⟨first, rest, rfl⟩

theorem ended_valueText_of_open (indent : Nat) (h : o.isOpen = true) :
    ∃ more, ended (valueText indent o) = '\n' :: more := by
  obtain ⟨first, items, rfl⟩ | ⟨first, entries, rfl⟩ := eq_of_isOpen h
  · exact ⟨_, ended_valueText_list indent first items⟩
  · exact ⟨_, ended_valueText_fields indent first entries⟩

/-- A blank or a line break stands behind a colon. -/
theorem stops_valueText (indent : Nat) (o : Outline) (rest : List Char) :
    Stops (':' :: (ended (valueText indent o) ++ rest)) := by
  cases hopen : o.isOpen with
  | false =>
      rw [ended_valueText_of_closed hopen]
      exact .colon rfl
  | true =>
      obtain ⟨more, hmore⟩ := ended_valueText_of_open indent hopen
      rw [hmore]
      exact .colon rfl

theorem valueText_ne (o : Outline) : valueText indent o ≠ "" := by
  unfold valueText
  split <;> simp

/-- A key on a line, and what follows it. -/
theorem ended_entryText_of_simple (h : isSimpleKey e.1 = true) : ended (entryText indent e)
    = (simpleKey e.1).toList ++ ':' :: ended (valueText indent e.2) := by
  rw [entryText, if_pos h, ended_append (valueText_ne _), String.toList_append, List.append_assoc]
  rfl

/-- A longer key, and what follows it on a line of its own. -/
theorem ended_entryText_of_long (h : isSimpleKey e.1 = false) : ended (entryText indent e)
    = '?' :: ' ' :: (ended (Yaml.textAt (indent + 2) e.1) ++ (List.replicate indent ' '
      ++ ':' :: ' ' :: chars (e.2.inner indent) e.2)) := by
  have hne : ∀ t ∈ [": " ++ e.2.textAt (e.2.inner indent)], t ≠ "" := by simp
  have hlines :=
    replicate_append_ended_joinLines indent ("? " ++ Yaml.textAt (indent + 2) e.1) hne
  rw [rows_cons, rows_cons, ended_append_of_begun (by decide),
    ended_append_of_begun (s := ": ") (by decide)] at hlines
  rw [entryText, if_neg (by simp [h]), List.append_cancel_left hlines]
  simp [rows, chars]

/-! ## Shapes -/

/-- The shape of what is written of an outline. -/
inductive Shape
  | line
  | block
  | noItems
  | noFields
  | someItems
  | someFields
deriving DecidableEq

/-- The shape of an outline. -/
def shape : Outline → Shape
  | word _ => .line
  | text s => if TextForm.of s = .block then .block else .line
  | list [] => .noItems
  | list (_ :: _) => .someItems
  | fields [] => .noFields
  | fields (_ :: _) => .someFields

/-- How outlines of a shape begin. -/
def Shape.starts : Shape → List Start
  | line => [.bare, .single, .double]
  | block => [.block]
  | noItems => [.noItems]
  | noFields => [.noFields]
  | someItems => [.item]
  | someFields => [.bare, .single, .double, .longKey]

/-- Only a scalar on a line and fields may begin alike. -/
theorem Shape.eq_of_starts {a b : Shape} {start : Start} (ha : start ∈ a.starts)
    (hb : start ∈ b.starts) : a = b ∨ a = line ∧ b = someFields ∨ a = someFields ∧ b = line := by
  revert ha hb
  cases start <;> cases a <;> cases b <;> decide

/-- Every word is no text. -/
inductive Proper : Outline → Prop
  | word {t : String} (h : IsWord t) : Proper (.word t)
  | text {s : String} : Proper (.text s)
  | list {items : List Outline} (h : ∀ o ∈ items, Proper o) : Proper (.list items)
  | fields {entries : List (String × Outline)} (h : ∀ e ∈ entries, Proper e.2) :
      Proper (.fields entries)

theorem isBreak_of_isSimpleKey {key : String} (h : isSimpleKey key = true) :
    ∀ c ∈ key.toList, isBreak c = false := by
  simp only [isSimpleKey, Bool.and_eq_true, Bool.not_eq_true'] at h
  simpa using h.1

theorem form_of_isSimpleKey {key : String} (h : isSimpleKey key = true) :
    TextForm.of key ≠ .block :=
  form_of_no_break (isBreak_of_isSimpleKey h)

theorem start_entryText (e : String × Outline) (rest : List Char) :
    Start.of (ended (entryText indent e) ++ rest)
      = if isSimpleKey e.1 then (TextForm.of e.1).start else .longKey := by
  cases hkey : isSimpleKey e.1 with
  | true =>
      rw [ended_entryText_of_simple hkey, List.append_assoc, simpleKey, start_textAt]
      rfl
  | false =>
      rw [ended_entryText_of_long hkey]
      rfl

theorem Proper.onLine (ho : Proper o) (h : o.shape = .line) : OnLine o := by
  cases ho with
  | word hword => exact .word hword
  | @text s =>
      refine .text (fun hblock => ?_)
      rw [shape, if_pos hblock] at h
      cases h
  | @list items _ => cases items <;> cases h
  | @fields entries _ => cases entries <;> cases h

theorem chars_of_onLine (h : OnLine o) : chars indent o = (o.textAt indent).toList ++ ['\n'] := by
  cases h with
  | word hword => simpa only [chars, textAt] using hword.isBare.ended
  | text hform => simpa only [chars, textAt] using ended_textAt hform

theorem start_mem (ho : Proper o) (indent : Nat) (rest : List Char) :
    Start.of (chars indent o ++ rest) ∈ o.shape.starts := by
  cases ho with
  | word hword =>
      obtain ⟨c, cs, hcs, hbegins⟩ := hword.begins
      rw [chars_of_onLine (.word hword), textAt, hcs, List.append_assoc, List.cons_append,
        hbegins.start]
      exact List.mem_cons_self
  | @text s =>
      rw [chars, textAt, ended, List.append_assoc, start_textAt, shape]
      cases TextForm.of s <;> decide
  | @list items _ =>
      cases items with
      | nil =>
          rw [chars, textAt]
          exact List.mem_singleton_self _
      | cons o rest =>
          rw [chars_list_cons]
          exact List.mem_singleton_self _
  | @fields entries _ =>
      cases entries with
      | nil =>
          rw [chars, textAt]
          exact List.mem_singleton_self _
      | cons e rest =>
          rw [chars_fields_cons, List.append_assoc, start_entryText]
          cases hkey : isSimpleKey e.1 with
          | false => simp [shape, Shape.starts]
          | true =>
              have hform := form_of_isSimpleKey hkey
              cases hstart : TextForm.of e.1 with
              | block => exact absurd hstart hform
              | _ => simp [shape, Shape.starts, TextForm.start]

/-- The colon behind a key is not the end of a line. -/
theorem line_ne_fields {line : Outline} {m : Nat} {rest' : List Char} (h : OnLine line)
    (rest : List (String × Outline)) (more : List Char) :
    chars m line ++ rest' ≠ chars indent (.fields (e :: rest)) ++ more := by
  intro heq
  rw [chars_fields_cons, List.append_assoc] at heq
  cases hkey : isSimpleKey e.1 with
  | false =>
      have hshape : line.shape = .line := by
        cases h with
        | word _ => rfl
        | text hform => rw [shape, if_neg hform]
      have hproper : Proper line := by
        cases h with
        | word hword => exact .word hword
        | text _ => exact .text
      have hstart := start_mem hproper m rest'
      simp [heq, start_entryText, hkey, hshape, Shape.starts] at hstart
  | true =>
      -- The key is written as the same text would be in place of the scalar.
      have hwritten : simpleKey e.1 = (Outline.text e.1).textAt m := by
        rw [textAt, simpleKey, textAt_of_no_break 0 (m + 2) (isBreak_of_isSimpleKey hkey)]
      rw [chars_of_onLine h, ended_entryText_of_simple hkey, hwritten, List.append_assoc,
        List.append_assoc] at heq
      obtain ⟨-, hrests⟩ := h.append_inj (.text (form_of_isSimpleKey hkey)) (.line rfl)
        (stops_valueText _ _ _) heq
      exact absurd (List.cons.inj hrests).1 (by decide)

theorem shape_eq_noItems_iff : o.shape = .noItems ↔ o = .list [] := by
  rcases o with _ | _ | (_ | _) | (_ | _) <;> simp [shape, ite_eq_iff]

theorem shape_eq_someItems_iff :
    o.shape = .someItems ↔ ∃ first rest, o = .list (first :: rest) := by
  rcases o with _ | _ | (_ | _) | (_ | _) <;> simp [shape, ite_eq_iff]

theorem shape_eq_noFields_iff : o.shape = .noFields ↔ o = .fields [] := by
  rcases o with _ | _ | (_ | _) | (_ | _) <;> simp [shape, ite_eq_iff]

theorem shape_eq_someFields_iff :
    o.shape = .someFields ↔ ∃ first rest, o = .fields (first :: rest) := by
  rcases o with _ | _ | (_ | _) | (_ | _) <;> simp [shape, ite_eq_iff]

/-- The shape of an outline is told by how it is written, at whatever indentation. -/
theorem shape_eq {o' : Outline} {m : Nat} {rest rest' : List Char} (ho : Proper o)
    (ho' : Proper o') (h : chars indent o ++ rest = chars m o' ++ rest') : o.shape = o'.shape := by
  have hstart := start_mem ho indent rest
  rw [h] at hstart
  obtain hsame | ⟨hline, hfields⟩ | ⟨hfields, hline⟩ :=
    Shape.eq_of_starts hstart (start_mem ho' m rest')
  · exact hsame
  · obtain ⟨e, more, rfl⟩ := shape_eq_someFields_iff.1 hfields
    exact absurd h (line_ne_fields (ho.onLine hline) more rest')
  · obtain ⟨e, more, rfl⟩ := shape_eq_someFields_iff.1 hfields
    exact absurd h.symm (line_ne_fields (ho'.onLine hline) more rest)

end

end Outline

end Ferry.Yaml
