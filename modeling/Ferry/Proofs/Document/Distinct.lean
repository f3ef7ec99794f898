import Ferry.Proofs.Document.Reading

set_option autoImplicit false

/-! # Documents are told apart by their compact texts

Different regular documents have different compact texts (`compact_inj`). A document that is not
plain is not read back, so this does not follow from reading: the text of a value is instead cut off
from what stands behind it, value by value. -/

namespace Ferry.Document

/-! ## Kinds -/

/-- What the first character of a text tells about the document. -/
inductive Kind
  | null
  | bool (value : Bool)
  | number
  | string
  | array
  | object

def kind : Document → Kind
  | .null => .null
  | .bool value => .bool value
  | .number _ => .number
  | .string _ => .string
  | .array _ => .array
  | .object _ => .object

/-- The kind of the documents that begin with a character. -/
def Kind.ofChar (c : Char) : Kind :=
  if c = 'n' then .null
  else if c = 't' then .bool true
  else if c = 'f' then .bool false
  else if c = '"' then .string
  else if c = '[' then .array
  else if c = '\x7b' then .object
  else .number

section
variable {depth depth' : Nat} {d e : Document} {c : Char} {cs rest rest' : List Char}

theorem Kind.ofChar_of_isDigit (h : Text.isDigit c) : Kind.ofChar c = .number := by
  have hne : ∀ other, Text.isDigit other = false → c ≠ other := by
    rintro other hother rfl
    simp [h] at hother
  simp [Kind.ofChar, hne 'n' rfl, hne 't' rfl, hne 'f' rfl, hne '"' rfl, hne '[' rfl,
    hne '\x7b' rfl]

theorem Regular.kind_head (h : Regular depth d) :
    ∃ c more, d.compact.toList = c :: more ∧ d.kind = Kind.ofChar c := by
  cases h with
  | null => exact ⟨'n', _, rfl, rfl⟩
  | @bool _ value => cases value <;> exact ⟨_, _, rfl, rfl⟩
  | number htext =>
      obtain ⟨c, more, htext, hc⟩ := htext.head
      refine ⟨c, more, htext, ?_⟩
      rcases hc with rfl | hc
      · rfl
      · exact (Kind.ofChar_of_isDigit hc).symm
  | string => exact ⟨'"', _, toList_stringText, rfl⟩
  | array => exact ⟨'[', _, toList_array, rfl⟩
  | object => exact ⟨'\x7b', _, toList_object, rfl⟩

theorem kind_eq (hd : Regular depth d) (he : Regular depth' e)
    (h : d.compact.toList ++ rest = e.compact.toList ++ rest') : d.kind = e.kind := by
  obtain ⟨c, more, hc, hkind⟩ := hd.kind_head
  obtain ⟨c', more', hc', hkind'⟩ := he.kind_head
  rw [hc, hc'] at h
  rw [hkind, hkind', (List.cons.inj h).1]

/-! ## Strings, lists and objects -/

theorem stringText_append_inj {s t : String}
    (h : (stringText s).toList ++ rest = (stringText t).toList ++ rest') :
    s = t ∧ rest = rest' := by
  simp only [toList_stringText, List.cons_append, List.append_assoc, List.nil_append] at h
  have hread := congrArg parseString (List.cons.inj h).2
  rw [parseString_stringText, parseString_stringText, Option.some.injEq] at hread
  exact Prod.mk.inj hread

/-- What follows an item: a comma and the further items, or the closing mark. -/
def closing (mark : Char) (texts : List String) (rest : List Char) : List Char :=
  if texts = [] then mark :: rest else ',' :: ((Text.join "," texts).toList ++ mark :: rest)

theorem join_append (mark : Char) (text : String) (texts : List String) (rest : List Char) :
    (Text.join "," (text :: texts)).toList ++ mark :: rest
      = text.toList ++ closing mark texts rest := by
  cases texts with
  | nil => simp [closing, Text.join_singleton]
  | cons next texts => simp [closing, Text.join_cons_cons]

theorem ends_closing {mark : Char} (hmark : mark = ']' ∨ mark = '\x7d') (texts : List String)
    (rest : List Char) : Ends (closing mark texts rest) := by
  unfold closing
  split
  · exact ends_cons (.inr hmark)
  · exact ends_cons (.inl rfl)

theorem closing_inj {mark : Char} (hmark : mark ≠ ',') {texts texts' : List String}
    (h : closing mark texts rest = closing mark texts' rest') :
    (Text.join "," texts).toList ++ mark :: rest
      = (Text.join "," texts').toList ++ mark :: rest' := by
  unfold closing at h
  split at h <;> split at h
  · next hnone hnone' => rw [hnone, hnone', h]
  · exact absurd (List.cons.inj h).1 hmark
  · exact absurd (List.cons.inj h).1.symm hmark
  · exact (List.cons.inj h).2

/-- Lists between marks are told apart if their items are, with whatever may follow an item. -/
theorem join_append_inj {α : Type} {f : α → String} {mark : Char} {xs ys : List α}
    (hmark : mark = ']' ∨ mark = '\x7d')
    (hxs : ∀ x ∈ xs, ∃ c more, (f x).toList = c :: more ∧ c ≠ mark)
    (hys : ∀ y ∈ ys, ∃ c more, (f y).toList = c :: more ∧ c ≠ mark)
    (hinj : ∀ x ∈ xs, ∀ y ∈ ys, ∀ rest rest', Ends rest → Ends rest' →
      (f x).toList ++ rest = (f y).toList ++ rest' → x = y ∧ rest = rest')
    (h : (Text.join "," (xs.map f)).toList ++ mark :: rest
      = (Text.join "," (ys.map f)).toList ++ mark :: rest') : xs = ys ∧ rest = rest' := by
  induction xs generalizing ys with
  | nil =>
      cases ys with
      | nil => exact ⟨rfl, (List.cons.inj h).2⟩
      | cons y ys =>
          obtain ⟨c, more, hy, hc⟩ := hys y List.mem_cons_self
          rw [List.map_cons, join_append, hy] at h
          exact absurd (List.cons.inj h).1.symm hc
  | cons x xs ih =>
      cases ys with
      | nil =>
          obtain ⟨c, more, hx, hc⟩ := hxs x List.mem_cons_self
          rw [List.map_cons, join_append, hx] at h
          exact absurd (List.cons.inj h).1 hc
      | cons y ys =>
          rw [List.map_cons, List.map_cons, join_append, join_append] at h
          obtain ⟨rfl, htail⟩ := hinj x List.mem_cons_self y List.mem_cons_self _ _
            (ends_closing hmark _ _) (ends_closing hmark _ _) h
          have hcomma : mark ≠ ',' := by rcases hmark with rfl | rfl <;> decide
          obtain ⟨rfl, hrest⟩ := ih (fun x hx => hxs x (List.mem_cons_of_mem _ hx))
            (fun y hy => hys y (List.mem_cons_of_mem _ hy))
            (fun x hx y hy => hinj x (List.mem_cons_of_mem _ hx) y (List.mem_cons_of_mem _ hy))
            (closing_inj hcomma htail)
          exact ⟨rfl, hrest⟩

theorem compactItems_eq (items : List Document) : compactItems items = items.map compact := by
  induction items with
  | nil => rfl
  | cons d rest ih => rw [compactItems, ih, List.map_cons]

/-- The text of a member. -/
def memberText (member : String × Document) : String :=
  stringText member.1 ++ ":" ++ member.2.compact

theorem compactMembers_eq (members : List (String × Document)) :
    compactMembers members = members.map memberText := by
  induction members with
  | nil => rfl
  | cons member rest ih =>
      obtain ⟨key, d⟩ := member
      rw [compactMembers, ih, List.map_cons, memberText]

theorem toList_memberText (member : String × Document) : (memberText member).toList
    = (stringText member.1).toList ++ ':' :: member.2.compact.toList := by
  simp [memberText]

/-! ## Documents -/

/-- The document is told apart from every regular one by its text, whatever follows. -/
def IsCut (d : Document) : Prop :=
  ∀ depth e, Regular depth e → ∀ rest rest', Ends rest → Ends rest' →
    d.compact.toList ++ rest = e.compact.toList ++ rest' → d = e ∧ rest = rest'

theorem isCut_array {items : List Document} (hitems : ∀ d ∈ items, Regular depth d)
    (h : ∀ d ∈ items, IsCut d) {items' : List Document} (hitems' : ∀ d ∈ items', Regular depth' d)
    (htext : (compact (.array items)).toList ++ rest = (compact (.array items')).toList ++ rest') :
    items = items' ∧ rest = rest' := by
  have hopen {depth : Nat} {items : List Document} (hitems : ∀ d ∈ items, Regular depth d) :
      ∀ d ∈ items, ∃ c more, d.compact.toList = c :: more ∧ c ≠ ']' := by
    intro d hd
    obtain ⟨c, more, hc, hopening⟩ := (hitems d hd).head
    exact ⟨c, more, hc, by rintro rfl; cases hopening⟩
  simp only [toList_array, itemsText, compactItems_eq, List.cons_append, List.append_assoc,
    List.nil_append] at htext
  exact join_append_inj (.inl rfl) (hopen hitems) (hopen hitems')
    (fun d hd e he rest rest' hrest hrest' =>
      h d hd depth' e (hitems' e he) rest rest' hrest hrest')
    (List.cons.inj htext).2

theorem isCut_object {members : List (String × Document)} (h : ∀ e ∈ members, IsCut e.2)
    {members' : List (String × Document)} (hmembers' : ∀ e ∈ members', Regular depth' e.2)
    (htext : (compact (.object members)).toList ++ rest
      = (compact (.object members')).toList ++ rest') : members = members' ∧ rest = rest' := by
  have hopen (members : List (String × Document)) :
      ∀ e ∈ members, ∃ c more, (memberText e).toList = c :: more ∧ c ≠ '\x7d' := fun e _ =>
    ⟨'"', _, by rw [toList_memberText, toList_stringText]; rfl, by decide⟩
  simp only [toList_object, membersText, compactMembers_eq, List.cons_append, List.append_assoc,
    List.nil_append] at htext
  refine join_append_inj (.inr rfl) (hopen members) (hopen members') ?_ (List.cons.inj htext).2
  rintro ⟨key, d⟩ hd ⟨key', e⟩ he rest rest' hrest hrest' hmember
  rw [toList_memberText, toList_memberText, List.append_assoc, List.append_assoc] at hmember
  obtain ⟨rfl, hvalue⟩ := stringText_append_inj hmember
  obtain ⟨rfl, hsame⟩ := h _ hd depth' e (hmembers' _ he) rest rest' hrest hrest'
    (List.cons.inj hvalue).2
  exact ⟨rfl, hsame⟩

/-- By induction on the document; a document of another kind begins with another character. -/
theorem Regular.isCut (h : Regular depth d) : IsCut d := by
  induction h with
  | @null depth =>
      intro _ e he rest rest' _ _ htext
      have hkind := kind_eq (.null : Regular depth .null) he htext
      cases he with
      | null => exact ⟨rfl, List.append_cancel_left htext⟩
      | _ => cases hkind
  | @bool depth value =>
      intro _ e he rest rest' _ _ htext
      have hkind := kind_eq (.bool : Regular depth (.bool value)) he htext
      cases he with
      | bool =>
          cases hkind
          exact ⟨rfl, List.append_cancel_left htext⟩
      | _ => cases hkind
  | @number depth text hnumber =>
      intro _ e he rest rest' hrest hrest' htext
      have hkind := kind_eq (.number hnumber : Regular depth (.number text)) he htext
      cases he with
      | number hnumber' =>
          have hread := congrArg parseNumber htext
          simp only [compact, parseNumber_append hnumber hrest, parseNumber_append hnumber' hrest',
            Option.some.injEq, Prod.mk.injEq] at hread
          exact ⟨congrArg Document.number hread.1, hread.2⟩
      | _ => cases hkind
  | @string depth value =>
      intro _ e he rest rest' _ _ htext
      have hkind := kind_eq (.string : Regular depth (.string value)) he htext
      cases he with
      | string =>
          obtain ⟨rfl, hrest⟩ := stringText_append_inj htext
          exact ⟨rfl, hrest⟩
      | _ => cases hkind
  | array hitems ih =>
      intro _ e he rest rest' _ _ htext
      have hkind := kind_eq (.array hitems) he htext
      cases he with
      | array hitems' =>
          obtain ⟨rfl, hrest⟩ := isCut_array hitems ih hitems' htext
          exact ⟨rfl, hrest⟩
      | _ => cases hkind
  | object hascending hkey hmembers ih =>
      intro _ e he rest rest' _ _ htext
      have hkind := kind_eq (.object hascending hkey hmembers) he htext
      cases he with
      | object _ _ hmembers' =>
          obtain ⟨rfl, hrest⟩ := isCut_object ih hmembers' htext
          exact ⟨rfl, hrest⟩
      | _ => cases hkind

theorem compact_inj (hd : Regular depth d) (he : Regular depth' e) (h : d.compact = e.compact) :
    d = e :=
  (hd.isCut depth' e he [] [] ends_nil ends_nil (by rw [h])).1

end

end Ferry.Document
