import Ferry.Config.Fingerprint
import Ferry.Proofs.Keyed
import Ferry.Proofs.Yaml.Distinct
import Ferry.Proofs.Yaml.Word

set_option autoImplicit false

/-! # Configurations are written apart

No two regular configurations are written alike (`Config.yaml_inj`): from the outline of a
configuration all of its parts can be told, and the outline from its text. What is regular is that
numbers have at most 64 bits, and that no object among the constants has the form in which a number
is written. -/

namespace Ferry

open Yaml (Outline)
open Yaml.Outline (Proper)

theorem eq_of_map_eq {α β : Type} {f : α → β} {xs ys : List α}
    (hinj : ∀ x ∈ xs, ∀ y ∈ ys, f x = f y → x = y) (h : xs.map f = ys.map f) : xs = ys := by
  induction xs generalizing ys with
  | nil => exact (List.map_eq_nil_iff.1 h.symm).symm
  | cons x xs ih =>
      cases ys with
      | nil => cases h
      | cons y ys =>
          obtain ⟨hfirst, hrest⟩ := List.cons.inj h
          rw [hinj x List.mem_cons_self y List.mem_cons_self hfirst, ih (fun x hx y hy =>
            hinj x (List.mem_cons_of_mem _ hx) y (List.mem_cons_of_mem _ hy)) hrest]

/-! ## Documents -/

namespace Document

/-- No object has the form in which a number is written: the key that marks one, alone. -/
inductive Unmarked : Document → Prop
  | null : Unmarked .null
  | bool {value : Bool} : Unmarked (.bool value)
  | number {text : String} : Unmarked (.number text)
  | string {value : String} : Unmarked (.string value)
  | array {items : List Document} (hitems : ∀ d ∈ items, Unmarked d) : Unmarked (.array items)
  | object {members : List (String × Document)}
      (hkey : members ≠ [] → ∃ e ∈ members, e.1 ≠ numberMarker)
      (hmembers : ∀ e ∈ members, Unmarked e.2) : Unmarked (.object members)

variable {d e : Document}

theorem outlines_eq (items : List Document) : outlines items = items.map outline := by
  induction items with
  | nil => rfl
  | cons d rest ih => rw [outlines, ih, List.map_cons]

/-- The outline of a member. -/
def memberOutline (member : String × Document) : String × Outline :=
  (member.1, member.2.outline)

theorem memberOutlines_eq (members : List (String × Document)) :
    memberOutlines members = members.map memberOutline := by
  induction members with
  | nil => rfl
  | cons member rest ih =>
      obtain ⟨key, d⟩ := member
      rw [memberOutlines, ih, List.map_cons, memberOutline]

theorem Unmarked.proper (h : Unmarked d) : Proper d.outline := by
  induction h with
  | null => exact .word Yaml.isWord_null
  | @bool value => exact .word (Yaml.isWord_bool value)
  | number => exact .fields (by simpa using .text)
  | string => exact .text
  | array _ ih =>
      rw [outline, outlines_eq]
      refine .list (fun o ho => ?_)
      obtain ⟨d, hd, rfl⟩ := List.mem_map.1 ho
      exact ih d hd
  | object _ _ ih =>
      rw [outline, memberOutlines_eq]
      refine .fields (fun o ho => ?_)
      obtain ⟨member, hmember, rfl⟩ := List.mem_map.1 ho
      exact ih member hmember

/-- The fields of a number are not those of an object. -/
theorem number_outline_ne {text : String} {members : List (String × Document)}
    (hkey : members ≠ [] → ∃ e ∈ members, e.1 ≠ numberMarker) :
    (Document.number text).outline ≠ (Document.object members).outline := by
  rw [outline, outline, memberOutlines_eq]
  intro h
  have hfields := Outline.fields.inj h
  cases members with
  | nil => cases hfields
  | cons member rest =>
      obtain ⟨hfirst, hrest⟩ := List.cons.inj hfields
      obtain ⟨e, he, hne⟩ := hkey (List.cons_ne_nil _ _)
      rw [List.map_eq_nil_iff.1 hrest.symm, List.mem_singleton] at he
      exact hne (he ▸ (Prod.mk.inj hfirst).1.symm)

theorem null_ne_boolWord (b : Bool) : "null" ≠ if b then "true" else "false" := by
  cases b <;> decide

theorem boolWord_inj {a b : Bool}
    (h : (if a then "true" else "false") = if b then "true" else "false") : a = b := by
  revert h
  cases a <;> cases b <;> decide

/-- By induction on the first document. -/
theorem Unmarked.outline_inj (hd : Unmarked d) (he : Unmarked e) (h : d.outline = e.outline) :
    d = e := by
  induction hd generalizing e with
  | null =>
      cases he with
      | null => rfl
      | bool => exact absurd (Outline.word.inj h) (null_ne_boolWord _)
      | _ => cases h
  | @bool value =>
      cases he with
      | null => exact absurd (Outline.word.inj h).symm (null_ne_boolWord value)
      | bool => rw [boolWord_inj (Outline.word.inj h)]
      | _ => cases h
  | number =>
      cases he with
      | number =>
          simp only [outline, Outline.fields.injEq, List.cons.injEq, Prod.mk.injEq,
            Outline.text.injEq, true_and, and_true] at h
          rw [h]
      | object hkey _ => exact absurd h (number_outline_ne hkey)
      | _ => cases h
  | string =>
      cases he with
      | string => rw [Outline.text.inj h]
      | _ => cases h
  | array _ ih =>
      cases he with
      | array hitems =>
          rw [outline, outline, outlines_eq, outlines_eq] at h
          rw [eq_of_map_eq (fun d hd e he hsame => ih d hd (hitems e he) hsame)
            (Outline.list.inj h)]
      | _ => cases h
  | object hkey _ ih =>
      cases he with
      | number => exact absurd h.symm (number_outline_ne hkey)
      | object _ hmembers =>
          rw [outline, outline, memberOutlines_eq, memberOutlines_eq] at h
          have hinj : ∀ x ∈ _, ∀ y ∈ _, memberOutline x = memberOutline y → x = y :=
            fun x hx y hy hsame =>
              Prod.ext (Prod.mk.inj hsame).1 (ih x hx (hmembers y hy) (Prod.mk.inj hsame).2)
          rw [eq_of_map_eq hinj (Outline.fields.inj h)]
      | _ => cases h

end Document

/-! ## Parts of a configuration -/

theorem natOutline_inj {m n : Nat} (h : natOutline m = natOutline n) : m = n := by
  have hread := congrArg (fun s => Text.natural? s.toList) (Outline.word.inj h)
  simpa only [Nat.toString_eq_repr, Text.natural?_repr, Option.some.injEq] using hread

theorem proper_natOutline {n : Nat} (h : n < 2 ^ 64) : Proper (natOutline n) :=
  .word (Yaml.isWord_toString (by omega))

theorem boolOutline_inj {a b : Bool} (h : boolOutline a = boolOutline b) : a = b :=
  Document.boolWord_inj (Outline.word.inj h)

theorem proper_boolOutline (b : Bool) : Proper (boolOutline b) := .word (Yaml.isWord_bool b)

theorem textsOutline_inj {a b : List String} (h : textsOutline a = textsOutline b) : a = b :=
  eq_of_map_eq (fun _ _ _ _ => Outline.text.inj) (Outline.list.inj h)

theorem proper_textsOutline (texts : List String) : Proper (textsOutline texts) := by
  refine .list (fun o ho => ?_)
  obtain ⟨text, -, rfl⟩ := List.mem_map.1 ho
  exact .text

theorem ColumnPair.outline_inj {a b : ColumnPair} (h : a.outline = b.outline) : a = b := by
  cases a <;> cases b <;> simp_all [outline]

theorem ColumnPair.proper (a : ColumnPair) : Proper a.outline := by
  cases a with
  | same => exact .text
  | renamed => exact .fields (by simpa using ⟨.text, .text⟩)

/-- No document of the constant has the form in which a number is written. -/
def Constant.Unmarked : Constant → Prop
  | column _ fallback => ∀ d ∈ fallback, d.Unmarked
  | value d => d.Unmarked

theorem Constant.outline_inj {a b : Constant} (ha : a.Unmarked) (hb : b.Unmarked)
    (h : a.outline = b.outline) : a = b := by
  rcases a with ⟨name, _ | d⟩ | d <;> rcases b with ⟨name', _ | d'⟩ | d' <;>
    simp only [outline, Outline.fields.injEq, List.cons.injEq, Prod.mk.injEq,
      Outline.text.injEq, reduceCtorEq, and_true, true_and, and_false, String.reduceEq,
      false_and] at h
  · rw [h]
  · rw [h.1, (ha d rfl).outline_inj (hb d' rfl) h.2]
  · rw [Document.Unmarked.outline_inj ha hb h]

theorem Constant.Unmarked.proper {a : Constant} (h : a.Unmarked) : Proper a.outline := by
  rcases a with ⟨name, _ | d⟩ | d
  · exact .fields (by simpa [outline] using .text)
  · exact .fields (by simpa [outline] using ⟨.text, (h d rfl).proper⟩)
  · exact .fields (by simpa [outline] using Document.Unmarked.proper h)

/-! ## Entries -/

theorem WriteMode.text_inj {a b : WriteMode} (h : a.text = b.text) : a = b := by
  revert h
  cases a <;> cases b <;> decide

namespace Entry

/-- No document of the entry has the form in which a number is written. -/
def Unmarked (e : Entry) : Prop := ∀ c ∈ e.constants, c.2.Unmarked

theorem get?_listField {α : Type} {name key : String} {items : List α} {o : Outline} :
    Keyed.get? name (listField key items o)
      = if key = name then (if items.isEmpty then none else some o) else none := by
  unfold listField
  cases items <;> simp [Keyed.get?]

theorem get?_mode {name : String} {mode : Option WriteMode} :
    Keyed.get? name (mode.toList.map (fun m => ("mode", Outline.text m.text)))
      = if "mode" = name then mode.map (fun m => .text m.text) else none := by
  cases mode <;> simp [Keyed.get?]

/-- A list that is left out when it is empty is told from what is written of it. -/
theorem eq_of_kept_eq {α : Type} {f : List α → Outline} {xs ys : List α}
    (hinj : f xs = f ys → xs = ys)
    (h : (if xs.isEmpty then none else some (f xs)) = if ys.isEmpty then none else some (f ys)) :
    xs = ys := by
  cases xs <;> cases ys <;> simp_all

/-- What is found under each key tells the parts. -/
theorem outline_inj {a b : Entry} (ha : a.Unmarked) (hb : b.Unmarked) (h : a.outline = b.outline) :
    a = b := by
  have hfield (name : String) := congrArg (Keyed.get? name) (Outline.fields.inj h)
  simp only [List.cons_append, Keyed.get?_cons, Keyed.get?_append, get?_listField, get?_mode]
    at hfield
  have htable : a.table = b.table := by simpa using hfield "table"
  have hmode : a.mode = b.mode := by
    refine Option.map_injective (fun m n hsame => ?_)
      (show a.mode.map (fun m => Outline.text m.text) = b.mode.map _ by simpa using hfield "mode")
    exact WriteMode.text_inj (Outline.text.inj hsame)
  have hcolumns : a.columns = b.columns := by
    refine eq_of_kept_eq (f := fun columns => .list (columns.map ColumnPair.outline))
      (fun hsame => ?_) (by simpa using hfield "columns")
    exact eq_of_map_eq (fun _ _ _ _ => ColumnPair.outline_inj) (Outline.list.inj hsame)
  have hconstants : a.constants = b.constants := by
    refine eq_of_kept_eq (f := fun constants => .fields (constants.map fun c => (c.1, c.2.outline)))
      (fun hsame => ?_) (by simpa using hfield "constants")
    refine eq_of_map_eq (fun c hc c' hc' hpair => ?_) (Outline.fields.inj hsame)
    obtain ⟨hname, hconstant⟩ := Prod.mk.inj hpair
    exact Prod.ext hname (Constant.outline_inj (ha c hc) (hb c' hc') hconstant)
  have hkey : a.conflictKey = b.conflictKey :=
    eq_of_kept_eq textsOutline_inj (by simpa using hfield "conflict_key")
  cases a
  cases b
  simp_all

theorem forall_mem_listField {α : Type} {name : String} {items : List α} {o : Outline}
    (ho : Proper o) : ∀ field ∈ listField name items o, Proper field.2 := by
  unfold listField
  cases items <;> simp [ho]

theorem Unmarked.proper {e : Entry} (h : e.Unmarked) : Proper e.outline := by
  have hmode : ∀ field ∈ e.mode.toList.map (fun m => ("mode", Outline.text m.text)),
      Proper field.2 := by
    intro field hfield
    obtain ⟨m, -, rfl⟩ := List.mem_map.1 hfield
    exact .text
  have hcolumns : Proper (.list (e.columns.map ColumnPair.outline)) := by
    refine .list (fun o ho => ?_)
    obtain ⟨pair, -, rfl⟩ := List.mem_map.1 ho
    exact pair.proper
  have hconstants : Proper (.fields (e.constants.map (fun c => (c.1, c.2.outline)))) := by
    refine .fields (fun field hfield => ?_)
    obtain ⟨c, hc, rfl⟩ := List.mem_map.1 hfield
    exact (h c hc).proper
  refine .fields ?_
  simp only [List.cons_append, List.forall_mem_cons, List.forall_mem_append]
  exact ⟨.text, ⟨⟨hmode, forall_mem_listField hcolumns⟩, forall_mem_listField hconstants⟩,
    forall_mem_listField (proper_textsOutline _)⟩

end Entry

/-! ## Configurations -/

/-- The numbers have at most 64 bits, and no document among the constants has the form in which a
    number is written. -/
structure Settings.Regular (s : Settings) : Prop where
  batch_size : s.batchSize < 2 ^ 64
  connect_timeout : s.connectTimeout < 2 ^ 64
  max_connections : s.maxConnections < 2 ^ 64
  tables : ∀ e ∈ s.tables, e.Unmarked

/-- The ports have at most 16 bits. -/
structure Config.Regular (c : Config) : Prop where
  source_port : c.source.port < 2 ^ 16
  target_port : c.target.port < 2 ^ 16
  migration : c.migration.Regular

/-- The fields of a shape that leaves none out are told one by one. -/
theorem fields_cons_inj {key : String} {o o' : Outline} {rest rest' : List (String × Outline)}
    (h : Outline.fields ((key, o) :: rest) = .fields ((key, o') :: rest')) :
    o = o' ∧ Outline.fields rest = .fields rest' := by
  simpa using h

theorem Endpoint.outline_inj {a b : Endpoint} (h : a.outline = b.outline) : a = b := by
  obtain ⟨hhost, h⟩ := fields_cons_inj h
  obtain ⟨hport, h⟩ := fields_cons_inj h
  obtain ⟨hdatabase, h⟩ := fields_cons_inj h
  obtain ⟨huser, h⟩ := fields_cons_inj h
  obtain ⟨hpassword, h⟩ := fields_cons_inj h
  obtain ⟨hschema, h⟩ := fields_cons_inj h
  obtain ⟨hmode, -⟩ := fields_cons_inj h
  have hnumber := natOutline_inj hport
  cases a
  cases b
  simp_all

theorem Endpoint.proper {a : Endpoint} (h : a.port < 2 ^ 16) : Proper a.outline := by
  have hport : Proper (natOutline a.port) := proper_natOutline (by omega)
  refine .fields ?_
  simp only [List.forall_mem_cons]
  exact ⟨.text, hport, .text, .text, .text, .text, .text, by simp⟩

theorem Settings.outline_inj {a b : Settings} (ha : a.Regular) (hb : b.Regular)
    (h : a.outline = b.outline) : a = b := by
  obtain ⟨hbatch, h⟩ := fields_cons_inj h
  obtain ⟨hidentical, h⟩ := fields_cons_inj h
  obtain ⟨hexclude, h⟩ := fields_cons_inj h
  obtain ⟨htimeout, h⟩ := fields_cons_inj h
  obtain ⟨hconnections, h⟩ := fields_cons_inj h
  obtain ⟨htables, -⟩ := fields_cons_inj h
  have hentries := eq_of_map_eq (fun e he e' he' hsame =>
    Entry.outline_inj (ha.tables e he) (hb.tables e' he') hsame) (Outline.list.inj htables)
  have hbatch := natOutline_inj hbatch
  have hidentical := boolOutline_inj hidentical
  have hexclude := textsOutline_inj hexclude
  have htimeout := natOutline_inj htimeout
  have hconnections := natOutline_inj hconnections
  cases a
  cases b
  simp_all

theorem Settings.Regular.proper {s : Settings} (h : s.Regular) : Proper s.outline := by
  have htables : Proper (.list (s.tables.map Entry.outline)) := by
    refine .list (fun o ho => ?_)
    obtain ⟨e, he, rfl⟩ := List.mem_map.1 ho
    exact (h.tables e he).proper
  refine .fields ?_
  simp only [List.forall_mem_cons]
  exact ⟨proper_natOutline h.batch_size, proper_boolOutline _, proper_textsOutline _,
    proper_natOutline h.connect_timeout, proper_natOutline h.max_connections, htables, by simp⟩

namespace Config

theorem Regular.proper {c : Config} (h : c.Regular) : Proper c.outline := by
  refine .fields ?_
  simp only [List.forall_mem_cons]
  exact ⟨Endpoint.proper h.source_port, Endpoint.proper h.target_port, h.migration.proper, by simp⟩

theorem outline_inj {c d : Config} (hc : c.Regular) (hd : d.Regular) (h : c.outline = d.outline) :
    c = d := by
  obtain ⟨hsource, h⟩ := fields_cons_inj h
  obtain ⟨htarget, h⟩ := fields_cons_inj h
  obtain ⟨hmigration, -⟩ := fields_cons_inj h
  have hsource := Endpoint.outline_inj hsource
  have htarget := Endpoint.outline_inj htarget
  have hmigration := Settings.outline_inj hc.migration hd.migration hmigration
  cases c
  cases d
  simp_all

/-- No two regular configurations are written alike. -/
theorem yaml_inj {c d : Config} (hc : c.Regular) (hd : d.Regular) (h : c.yaml = d.yaml) : c = d :=
  outline_inj hc hd (hc.proper.write_inj hd.proper h)

end Config

end Ferry
