import Ferry.Proofs.Yaml.Outline

set_option autoImplicit false

/-! # Outlines are told apart

An outline whose words are no texts is told from every other one by how it is written, whatever
stands behind it that is no part of it (`Proper.isCut`). So no two of them are written alike
(`Proper.write_inj`). -/

namespace Ferry.Yaml.Outline

variable {indent : Nat} {o o' : Outline} {e e' : String × Outline} {rest rest' : List Char}

/-! ## What stands behind an outline -/

/-- What stands behind the items of a list at an indentation. -/
structure BehindItems (indent : Nat) (rest : List Char) : Prop where
  outdented : Outdented (indent + 1) rest
  no_item : ∀ more, rest ≠ List.replicate indent ' ' ++ '-' :: ' ' :: more

/-- What stands behind an outline at an indentation. -/
def Behind (indent : Nat) : Outline → List Char → Prop
  | list (_ :: _), rest => BehindItems indent rest
  | fields (_ :: _), rest => Outdented indent rest
  | _, rest => Outdented (indent + 1) rest

/-- The outline is told from every proper one, whatever stands behind them. -/
def IsCut (o : Outline) : Prop :=
  ∀ indent o', Proper o' → ∀ rest rest', Behind indent o rest → Behind indent o' rest' →
    chars indent o ++ rest = chars indent o' ++ rest' → o = o' ∧ rest = rest'

theorem Behind.of_closed (h : o.isOpen = false) (hrest : Outdented (indent + 1) rest) :
    Behind indent o rest := by
  rcases o with _ | _ | (_ | _) | (_ | _)
  case list.cons => cases h
  case fields.cons => cases h
  all_goals exact hrest

theorem BehindItems.of_outdented {n : Nat} (h : Outdented n rest) (hn : n ≤ indent) :
    BehindItems indent rest :=
  ⟨h.weaken (by omega), fun _ => (h.weaken hn).ne_replicate⟩

theorem isOpen_eq (o : Outline) :
    o.isOpen = (o.shape == .someItems || o.shape == .someFields) := by
  rcases o with _ | s | (_ | _) | (_ | _)
  case text =>
    rw [shape]
    split <;> rfl
  all_goals rfl

theorem Behind.inner (hrest : Outdented (indent + 1) rest) : Behind (o.inner indent) o rest := by
  cases hopen : o.isOpen with
  | false =>
      rw [Outline.inner, if_neg (by simp [hopen])]
      exact .of_closed hopen hrest
  | true =>
      rw [Outline.inner, if_pos hopen]
      obtain ⟨first, items, rfl⟩ | ⟨first, entries, rfl⟩ := eq_of_isOpen hopen
      · exact .of_outdented hrest (by omega)
      · exact hrest.weaken (by omega)

/-! ## Rows -/

/-- What may stand behind a row and behind the last of them. -/
structure Parted {α : Type} (indent : Nat) (write : α → String) (follows ends : List Char → Prop) :
    Prop where
  of_ends {rest : List Char} (h : ends rest) : follows rest
  row (x : α) (more : List Char) : follows (List.replicate indent ' ' ++ (ended (write x) ++ more))
  no_row {rest : List Char} (h : ends rest) (x : α) (more : List Char) :
    rest ≠ List.replicate indent ' ' ++ (ended (write x) ++ more)

section
variable {α : Type} {write : α → String} {follows ends : List Char → Prop} {xs ys : List α}

theorem Parted.follows_rows (hparted : Parted indent write follows ends) (hrest : ends rest)
    (xs : List α) : follows (rows indent (xs.map write) ++ rest) := by
  cases xs with
  | nil => exact hparted.of_ends hrest
  | cons x xs =>
      rw [List.map_cons, rows_cons, List.append_assoc, List.append_assoc]
      exact hparted.row x _

/-- By induction on the first list: what stands behind the last row is no row. -/
theorem Parted.rows_append_inj (hparted : Parted indent write follows ends)
    (hinj : ∀ x ∈ xs, ∀ y ∈ ys, ∀ rest rest', follows rest → follows rest' →
      ended (write x) ++ rest = ended (write y) ++ rest' → x = y ∧ rest = rest')
    (hrest : ends rest) (hrest' : ends rest')
    (h : rows indent (xs.map write) ++ rest = rows indent (ys.map write) ++ rest') :
    xs = ys ∧ rest = rest' := by
  induction xs generalizing ys with
  | nil =>
      cases ys with
      | nil => exact ⟨rfl, h⟩
      | cons y ys =>
          rw [List.map_cons, rows_cons, List.append_assoc, List.append_assoc] at h
          exact absurd h (hparted.no_row hrest y _)
  | cons x xs ih =>
      rw [List.map_cons, rows_cons, List.append_assoc, List.append_assoc] at h
      cases ys with
      | nil => exact absurd h.symm (hparted.no_row hrest' x _)
      | cons y ys =>
          rw [List.map_cons, rows_cons, List.append_assoc, List.append_assoc] at h
          obtain ⟨rfl, htail⟩ := hinj x List.mem_cons_self y List.mem_cons_self _ _
            (hparted.follows_rows hrest xs) (hparted.follows_rows hrest' ys)
            (List.append_cancel_left h)
          obtain ⟨rfl, hsame⟩ := ih (fun x hx y hy =>
            hinj x (List.mem_cons_of_mem _ hx) y (List.mem_cons_of_mem _ hy)) htail
          exact ⟨rfl, hsame⟩

end

/-! ## Items -/

theorem parted_items (indent : Nat) :
    Parted indent (itemText indent) (Outdented (indent + 1)) (BehindItems indent) where
  of_ends h := h.outdented
  row o more := by
    rw [ended_itemText]
    exact .line (Nat.lt_succ_self indent) (by decide) rfl
  no_row h o more := by
    rw [ended_itemText]
    exact h.no_item _

/-- Behind a sign and a blank the shape tells at which indentation an outline is. -/
theorem inner_append_inj (hcut : IsCut o) (ho : Proper o) (ho' : Proper o')
    (hrest : Outdented (indent + 1) rest) (hrest' : Outdented (indent + 1) rest')
    (h : chars (o.inner indent) o ++ rest = chars (o'.inner indent) o' ++ rest') :
    o = o' ∧ rest = rest' := by
  have hinner : o.inner indent = o'.inner indent := by
    rw [inner, inner, isOpen_eq, isOpen_eq, shape_eq ho ho' h]
  have hbehind' := Behind.inner (o := o') hrest'
  rw [← hinner] at h hbehind'
  exact hcut _ o' ho' rest rest' (.inner hrest) hbehind' h

theorem items_append_inj {items items' : List Outline} (hcut : ∀ o ∈ items, IsCut o)
    (hitems : ∀ o ∈ items, Proper o) (hitems' : ∀ o ∈ items', Proper o)
    (hrest : BehindItems indent rest) (hrest' : BehindItems indent rest')
    (h : rows indent (items.map (itemText indent)) ++ rest
      = rows indent (items'.map (itemText indent)) ++ rest') : items = items' ∧ rest = rest' := by
  refine (parted_items indent).rows_append_inj ?_ hrest hrest' h
  intro o ho o' ho' rest rest' hrest hrest' hitem
  rw [ended_itemText, ended_itemText] at hitem
  exact inner_append_inj (hcut o ho) (hitems o ho) (hitems' o' ho') hrest hrest'
    (List.cons.inj (List.cons.inj hitem).2).2

/-! ## Entries -/

theorem head_entryText (indent : Nat) (e : String × Outline) :
    ∃ c more, ended (entryText indent e) = c :: more ∧ c ≠ ' ' ∧ isBreak c = false := by
  cases hkey : isSimpleKey e.1 with
  | false => exact ⟨'?', _, ended_entryText_of_long hkey, by decide, rfl⟩
  | true =>
      have hform := form_of_isSimpleKey hkey
      rw [ended_entryText_of_simple hkey, simpleKey, Yaml.textAt]
      cases hwritten : TextForm.of e.1 with
      | plain =>
          obtain ⟨-, hbare, c, cs, hcs, hbegins⟩ := plain_spec hwritten
          rw [hcs] at hbare ⊢
          exact ⟨c, _, rfl, hbegins.blank, hbare.1⟩
      | single =>
          rw [toList_singleQuoted]
          exact ⟨_, _, rfl, by decide, rfl⟩
      | double =>
          rw [toList_doubleQuoted]
          exact ⟨_, _, rfl, by decide, rfl⟩
      | block => exact absurd hwritten hform

theorem start_entryText_ne (e : String × Outline) (more : List Char) :
    Start.of (ended (entryText indent e) ++ more) ≠ .item := by
  rw [start_entryText]
  split
  · cases TextForm.of e.1 <;> decide
  · decide

theorem parted_entries (indent : Nat) :
    Parted indent (entryText indent) (BehindItems indent) (Outdented indent) where
  of_ends h := .of_outdented h (Nat.le_refl indent)
  row e more := by
    obtain ⟨c, chars, hchars, hblank, hbreak⟩ := head_entryText indent e
    constructor
    · rw [hchars]
      exact .line (Nat.lt_succ_self indent) hblank hbreak
    · intro more' h
      exact start_entryText_ne e more (congrArg Start.of (List.append_cancel_left h))
  no_row h e more := by
    obtain ⟨c, chars, hchars, hblank, hbreak⟩ := head_entryText indent e
    rw [hchars]
    exact h.ne_replicate

/-- The items of a list are less indented than fields in its place. -/
theorem list_value_ne_fields_value {items : List Outline} {entries : List (String × Outline)} :
    ended (valueText indent (.list (o :: items))) ++ rest
      ≠ ended (valueText indent (.fields (e :: entries))) ++ rest' := by
  rw [ended_valueText_list, ended_valueText_fields, chars_list_cons]
  simp only [List.cons_append, List.append_assoc, ← List.replicate_append_replicate (n := indent)]
  intro h
  exact absurd (List.cons.inj (List.append_cancel_left (List.cons.inj h).2)).1 (by decide)

theorem open_value_append_inj (hopen : o.isOpen = true) (hopen' : o'.isOpen = true) (hcut : IsCut o)
    (ho' : Proper o') (hrest : BehindItems indent rest) (hrest' : BehindItems indent rest')
    (h : ended (valueText indent o) ++ rest = ended (valueText indent o') ++ rest') :
    o = o' ∧ rest = rest' := by
  obtain ⟨first, items, rfl⟩ | ⟨first, entries, rfl⟩ := eq_of_isOpen hopen <;>
    obtain ⟨first', items', rfl⟩ | ⟨first', entries', rfl⟩ := eq_of_isOpen hopen'
  · simp only [ended_valueText_list, List.cons_append, List.append_assoc] at h
    exact hcut indent _ ho' rest rest' hrest hrest' (List.append_cancel_left (List.cons.inj h).2)
  · exact absurd h list_value_ne_fields_value
  · exact absurd h.symm list_value_ne_fields_value
  · simp only [ended_valueText_fields, List.cons_append, List.append_assoc] at h
    exact hcut (indent + 2) _ ho' rest rest' (hrest.outdented.weaken (by omega))
      (hrest'.outdented.weaken (by omega)) (List.append_cancel_left (List.cons.inj h).2)

/-- Behind a colon the first character tells whether the outline has something inside. -/
theorem value_append_inj (hcut : IsCut o) (ho' : Proper o') (hrest : BehindItems indent rest)
    (hrest' : BehindItems indent rest')
    (h : ended (valueText indent o) ++ rest = ended (valueText indent o') ++ rest') :
    o = o' ∧ rest = rest' := by
  cases hopen : o.isOpen <;> cases hopen' : o'.isOpen
  · rw [ended_valueText_of_closed hopen, ended_valueText_of_closed hopen'] at h
    exact hcut indent o' ho' rest rest' (.of_closed hopen hrest.outdented)
      (.of_closed hopen' hrest'.outdented) (List.cons.inj h).2
  · obtain ⟨more, hmore⟩ := ended_valueText_of_open indent hopen'
    rw [ended_valueText_of_closed hopen, hmore] at h
    exact absurd (List.cons.inj h).1 (by decide)
  · obtain ⟨more, hmore⟩ := ended_valueText_of_open indent hopen
    rw [ended_valueText_of_closed hopen', hmore] at h
    exact absurd (List.cons.inj h).1 (by decide)
  · exact open_value_append_inj hopen hopen' hcut ho' hrest hrest' h

theorem entry_append_inj (hcut : IsCut e.2) (he : Proper e.2) (he' : Proper e'.2)
    (hrest : BehindItems indent rest) (hrest' : BehindItems indent rest')
    (h : ended (entryText indent e) ++ rest = ended (entryText indent e') ++ rest') :
    e = e' ∧ rest = rest' := by
  -- The start tells whether the key is on the line of its colon.
  have hkeys : isSimpleKey e.1 = isSimpleKey e'.1 := by
    have hstart := congrArg Start.of h
    rw [start_entryText, start_entryText] at hstart
    cases hkey : isSimpleKey e.1 <;> cases hkey' : isSimpleKey e'.1 <;>
      simp only [hkey, hkey', if_true, if_false, Bool.false_eq_true] at hstart
    · rfl
    · cases hform : TextForm.of e'.1 <;> rw [hform] at hstart <;> cases hstart
    · cases hform : TextForm.of e.1 <;> rw [hform] at hstart <;> cases hstart
    · rfl
  cases hkey : isSimpleKey e.1 with
  | true =>
      rw [ended_entryText_of_simple hkey, ended_entryText_of_simple (hkeys ▸ hkey),
        List.append_assoc, List.append_assoc] at h
      obtain ⟨hsame, htail⟩ := textAt_append_inj (form_of_isSimpleKey hkey)
        (stops_valueText _ _ _) (stops_valueText _ _ _) h
      obtain ⟨hvalue, hrests⟩ := value_append_inj hcut he' hrest hrest' (List.cons.inj htail).2
      exact ⟨Prod.ext hsame hvalue, hrests⟩
  | false =>
      rw [ended_entryText_of_long hkey, ended_entryText_of_long (hkeys ▸ hkey)] at h
      simp only [List.cons_append, List.append_assoc] at h
      have hcolon (more : List Char) :
          Outdented (indent + 2) (List.replicate indent ' ' ++ ':' :: more) :=
        .line (by omega) (by decide) rfl
      obtain ⟨hsame, htail⟩ := text_append_inj (hcolon _) (hcolon _)
        (List.cons.inj (List.cons.inj h).2).2
      obtain ⟨hvalue, hrests⟩ := inner_append_inj hcut he he' hrest.outdented hrest'.outdented
        (List.cons.inj (List.cons.inj (List.append_cancel_left htail)).2).2
      exact ⟨Prod.ext hsame hvalue, hrests⟩

theorem entries_append_inj {entries entries' : List (String × Outline)}
    (hcut : ∀ e ∈ entries, IsCut e.2) (hentries : ∀ e ∈ entries, Proper e.2)
    (hentries' : ∀ e ∈ entries', Proper e.2) (hrest : Outdented indent rest)
    (hrest' : Outdented indent rest')
    (h : rows indent (entries.map (entryText indent)) ++ rest
      = rows indent (entries'.map (entryText indent)) ++ rest') :
    entries = entries' ∧ rest = rest' := by
  refine (parted_entries indent).rows_append_inj ?_ hrest hrest' h
  intro e he e' he' rest rest' hrest hrest' hentry
  exact entry_append_inj (hcut e he) (hentries e he) (hentries' e' he') hrest hrest' hentry

/-! ## Outlines -/

theorem isCut_of_line (ho : Proper o) (hline : o.shape = .line) : IsCut o := by
  intro indent o' ho' rest rest' _ _ htext
  have hline' := (shape_eq ho ho' htext).symm.trans hline
  rw [chars_of_onLine (ho.onLine hline), chars_of_onLine (ho'.onLine hline'), List.append_assoc,
    List.append_assoc] at htext
  obtain ⟨hsame, htail⟩ := (ho.onLine hline).append_inj (ho'.onLine hline') (.line rfl) (.line rfl)
    htext
  exact ⟨hsame, (List.cons.inj htail).2⟩

theorem isCut_of_block {s : String} (hblock : TextForm.of s = .block) : IsCut (.text s) := by
  intro indent o' ho' rest rest' hrest hrest' htext
  have hshape := shape_eq .text ho' htext
  rw [shape, if_pos hblock] at hshape
  rcases o' with _ | t | (_ | _) | (_ | _)
  case text =>
    rw [chars, chars, textAt, textAt] at htext
    obtain ⟨rfl, hrests⟩ := text_append_inj (Outdented.weaken hrest (Nat.le_succ _))
      (Outdented.weaken hrest' (Nat.le_succ _)) htext
    exact ⟨rfl, hrests⟩
  all_goals cases hshape

theorem isCut_list {items : List Outline} (hitems : ∀ o ∈ items, Proper o)
    (hcut : ∀ o ∈ items, IsCut o) : IsCut (.list items) := by
  intro indent o' ho' rest rest' hrest hrest' htext
  have hshape := shape_eq (.list hitems) ho' htext
  cases items with
  | nil =>
      obtain rfl := shape_eq_noItems_iff.1 hshape.symm
      exact ⟨rfl, List.append_cancel_left htext⟩
  | cons first items =>
      obtain ⟨first', items', rfl⟩ := shape_eq_someItems_iff.1 hshape.symm
      cases ho' with
      | list hitems' =>
          have hrows := congrArg (List.replicate indent ' ' ++ ·) htext
          simp only [← List.append_assoc, margin_append_chars_list] at hrows
          obtain ⟨hsame, hrests⟩ := items_append_inj hcut hitems hitems' hrest hrest' hrows
          exact ⟨congrArg _ hsame, hrests⟩

theorem isCut_fields {entries : List (String × Outline)} (hentries : ∀ e ∈ entries, Proper e.2)
    (hcut : ∀ e ∈ entries, IsCut e.2) : IsCut (.fields entries) := by
  intro indent o' ho' rest rest' hrest hrest' htext
  have hshape := shape_eq (.fields hentries) ho' htext
  cases entries with
  | nil =>
      obtain rfl := shape_eq_noFields_iff.1 hshape.symm
      exact ⟨rfl, List.append_cancel_left htext⟩
  | cons first entries =>
      obtain ⟨first', entries', rfl⟩ := shape_eq_someFields_iff.1 hshape.symm
      cases ho' with
      | fields hentries' =>
          have hrows := congrArg (List.replicate indent ' ' ++ ·) htext
          simp only [← List.append_assoc, margin_append_chars_fields] at hrows
          obtain ⟨hsame, hrests⟩ := entries_append_inj hcut hentries hentries' hrest hrest' hrows
          exact ⟨congrArg _ hsame, hrests⟩

/-- By induction on the outline; how it is written tells its shape. -/
theorem Proper.isCut (h : Proper o) : IsCut o := by
  induction h with
  | word hword => exact isCut_of_line (.word hword) rfl
  | @text s =>
      by_cases hblock : TextForm.of s = .block
      · exact isCut_of_block hblock
      · exact isCut_of_line .text (by rw [shape, if_neg hblock])
  | list hitems ih => exact isCut_list hitems ih
  | fields hentries ih => exact isCut_fields hentries ih

theorem toList_write (o : Outline) : o.write.toList = chars 0 o := by
  rw [write, chars, ended]
  split <;> simp

theorem behind_nil (o : Outline) : Behind indent o [] := by
  unfold Behind
  split
  · exact ⟨.done, fun more => by simp⟩
  · exact .done
  · exact .done

/-- Outlines whose words are no texts are written alike only if they are the same. -/
theorem Proper.write_inj (ho : Proper o) (ho' : Proper o') (h : o.write = o'.write) : o = o' := by
  have hchars : chars 0 o ++ [] = chars 0 o' ++ [] := by
    rw [← toList_write, ← toList_write, h]
  exact (ho.isCut 0 o' ho' [] [] (behind_nil o) (behind_nil o') hchars).1

/-- A number and the text of its digits. -/
example : (list [.word "1", .text "1"]).write = "- 1\n- '1'\n" := by decide +kernel

end Ferry.Yaml.Outline
