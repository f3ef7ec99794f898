import Ferry.Proofs.Schema.Table
import Ferry.Schema.Difference

set_option autoImplicit false

/-! # What the differences between two tables say

Tables are compared in three ways: by the sets of their column names, by the columns that both have
under one name, and by the order of the common names. `TableDifference.Describes` says what each of
these has to bring out, in terms of the two tables alone, and that together they miss nothing: two
tables without differences have the same columns place by place. The common names are in two orders
of the same names, so a name is at another place in the second just when its rank differs. -/

namespace Ferry

/-! ## Names by their places -/

section
variable {names others : List String} {n : String} {i : Nat}

theorem getElem?_eq_some_iff_idxOf (h : names.Nodup) :
    names[i]? = some n ↔ n ∈ names ∧ names.idxOf n = i := by
  constructor
  · intro hi
    obtain ⟨hlt, rfl⟩ := List.getElem?_eq_some_iff.1 hi
    exact ⟨List.getElem_mem hlt, h.idxOf_getElem i hlt⟩
  · rintro ⟨hmem, rfl⟩
    exact List.getElem?_idxOf hmem

theorem pairwise_idxOf_lt (h : names.Nodup) :
    names.Pairwise (fun a b => names.idxOf a < names.idxOf b) := by
  rw [List.pairwise_iff_getElem]
  intro i j hi hj hij
  rwa [h.idxOf_getElem i hi, h.idxOf_getElem j hj]

/-- Names that are ascending by some number are in the order of that number. -/
theorem idxOf_lt_iff_of_pairwise (f : String → Nat) (h : names.Pairwise (fun a b => f a < f b))
    {a b : String} (ha : a ∈ names) (hb : b ∈ names) :
    names.idxOf a < names.idxOf b ↔ f a < f b := by
  have hmono (a b : String) (ha : a ∈ names) (hb : b ∈ names)
      (hlt : names.idxOf a < names.idxOf b) : f a < f b := by
    have hf := List.pairwise_iff_getElem.1 h _ _ (List.idxOf_lt_length_iff.2 ha)
      (List.idxOf_lt_length_iff.2 hb) hlt
    rwa [List.getElem_idxOf, List.getElem_idxOf] at hf
  constructor
  · exact hmono a b ha hb
  · intro hlt
    rcases Nat.lt_trichotomy (names.idxOf a) (names.idxOf b) with h | h | h
    · exact h
    · obtain rfl : a = b := (List.idxOf_inj ha).1 h
      omega
    · have hgt := hmono b a hb ha h
      omega

/-! ### Names at another place -/

theorem displaced_eq (names others : List String) :
    displaced names others
      = ((names.zip others).filter (fun pair => pair.1 ≠ pair.2)).map Prod.fst := by
  induction names generalizing others with
  | nil => simp [displaced]
  | cons s names ih =>
      cases others with
      | nil => simp [displaced]
      | cons t others =>
          rw [displaced, ih, List.zip_cons_cons, List.filter_cons]
          by_cases hsame : s = t <;> simp [hsame]

theorem mem_displaced_iff_place (names others : List String) (n : String) :
    n ∈ displaced names others ↔
      ∃ (i : Nat) (m : String), names[i]? = some n ∧ others[i]? = some m ∧ n ≠ m := by
  rw [displaced_eq, List.mem_map]
  constructor
  · rintro ⟨⟨n, m⟩, hmem, rfl⟩
    obtain ⟨hzip, hne⟩ := List.mem_filter.1 hmem
    obtain ⟨i, hi⟩ := List.mem_iff_getElem?.1 hzip
    obtain ⟨hn, hm⟩ := List.getElem?_zip_eq_some.1 hi
    exact ⟨i, m, hn, hm, by simpa using hne⟩
  · rintro ⟨i, m, hn, hm, hne⟩
    have hzip : (n, m) ∈ names.zip others :=
      List.mem_iff_getElem?.2 ⟨i, List.getElem?_zip_eq_some.2 ⟨hn, hm⟩⟩
    exact ⟨(n, m), List.mem_filter.2 ⟨hzip, by simpa using hne⟩, rfl⟩

theorem displaced_sublist (names others : List String) :
    (displaced names others).Sublist names := by
  induction names generalizing others with
  | nil => simp [displaced]
  | cons s names ih =>
      cases others with
      | nil => simp [displaced]
      | cons t others =>
          rw [displaced]
          split_ifs with hsame
          · exact (ih others).cons s
          · exact (ih others).cons_cons s

theorem displaced_eq_nil_iff (h : names.length = others.length) :
    displaced names others = [] ↔ names = others := by
  induction names generalizing others with
  | nil => cases others <;> simp_all [displaced]
  | cons s names ih =>
      cases others with
      | nil => cases h
      | cons t others =>
          rw [displaced, List.cons.injEq]
          split_ifs with hsame
          · rw [ih (Nat.succ.inj h)]
            simp [hsame]
          · simp [hsame]

/-- Of two orders of the same names, those are brought out whose index differs. -/
theorem mem_displaced_iff (hnames : names.Nodup) (hothers : others.Nodup)
    (hperm : names.Perm others) :
    n ∈ displaced names others ↔ n ∈ names ∧ names.idxOf n ≠ others.idxOf n := by
  rw [mem_displaced_iff_place]
  constructor
  · rintro ⟨i, m, hi, hm, hne⟩
    obtain ⟨hmem, rfl⟩ := (getElem?_eq_some_iff_idxOf hnames).1 hi
    refine ⟨hmem, fun hsame => hne ?_⟩
    have hn : others[names.idxOf n]? = some n :=
      (getElem?_eq_some_iff_idxOf hothers).2 ⟨hperm.mem_iff.1 hmem, hsame.symm⟩
    exact Option.some.inj (hn.symm.trans hm)
  · rintro ⟨hmem, hne⟩
    have hlt : names.idxOf n < others.length := by
      rw [← hperm.length_eq]
      exact List.idxOf_lt_length_iff.2 hmem
    refine ⟨names.idxOf n, others[names.idxOf n], List.getElem?_idxOf hmem,
      List.getElem?_eq_getElem hlt, fun hsame => hne ?_⟩
    have hn : others[names.idxOf n]? = some n := by
      rw [List.getElem?_eq_getElem hlt, ← hsame]
    exact ((getElem?_eq_some_iff_idxOf hothers).1 hn).2.symm

end

/-! ## Selections -/

/-- A part of a list that has those of its members which have a property, each once and in the
    order of the list. -/
structure Selects (part whole : List String) (p : String → Prop) : Prop where
  once : part.Nodup
  sublist : part.Sublist whole
  mem_iff : ∀ n, n ∈ part ↔ n ∈ whole ∧ p n

theorem selects_of_sublist {part whole : List String} {p : String → Prop} (hwhole : whole.Nodup)
    (hsublist : part.Sublist whole) (hmem : ∀ n, n ∈ part ↔ n ∈ whole ∧ p n) :
    Selects part whole p :=
  ⟨hsublist.nodup hwhole, hsublist, hmem⟩

theorem Selects.eq_nil_iff {part whole : List String} {p : String → Prop}
    (h : Selects part whole p) : part = [] ↔ ∀ n ∈ whole, ¬ p n := by
  rw [List.eq_nil_iff_forall_not_mem]
  simp only [h.mem_iff, not_and]

/-! ## The common names -/

/-- Two lists have the names that both have in the same order. -/
def SameOrder (names others : List String) : Prop :=
  ∀ a b, a ∈ names → a ∈ others → b ∈ names → b ∈ others →
    (names.idxOf a < names.idxOf b ↔ others.idxOf a < others.idxOf b)

namespace Table

/-- The names of the columns that another table has too. -/
def common (t other : Table) : List String := t.columnNames.filter (· ∈ other.columnNames)

/-- The place of a name among the names that another table has too. -/
def rank (t other : Table) (name : String) : Nat := (t.common other).idxOf name

variable {s t : Table} {n : String}

theorem mem_common_iff : n ∈ s.common t ↔ n ∈ s.columnNames ∧ n ∈ t.columnNames := by
  simp [common]

theorem common_nodup (h : s.columnNames.Nodup) : (s.common t).Nodup := h.filter _

theorem common_perm (hs : s.columnNames.Nodup) (ht : t.columnNames.Nodup) :
    (s.common t).Perm (t.common s) := by
  rw [List.perm_ext_iff_of_nodup (common_nodup hs) (common_nodup ht)]
  intro n
  rw [mem_common_iff, mem_common_iff, and_comm]

/-- The common names stand in the order of the whole table. -/
theorem common_pairwise (h : s.columnNames.Nodup) :
    (s.common t).Pairwise (fun a b => s.columnNames.idxOf a < s.columnNames.idxOf b) :=
  (pairwise_idxOf_lt h).filter _

/-- The common names are in one order just when they are in the same order in both tables. -/
theorem common_eq_iff (hs : s.columnNames.Nodup) (ht : t.columnNames.Nodup) :
    s.common t = t.common s ↔ SameOrder s.columnNames t.columnNames := by
  constructor
  · intro heq a b has hat hbs hbt
    have ha : a ∈ s.common t := mem_common_iff.2 ⟨has, hat⟩
    have hb : b ∈ s.common t := mem_common_iff.2 ⟨hbs, hbt⟩
    rw [← idxOf_lt_iff_of_pairwise _ (common_pairwise hs) ha hb, heq]
    exact idxOf_lt_iff_of_pairwise _ (common_pairwise ht) (heq ▸ ha) (heq ▸ hb)
  · intro hsame
    -- Both lists are ascending by the index in the first table.
    have hpairwise : (t.common s).Pairwise
        (fun a b => s.columnNames.idxOf a < s.columnNames.idxOf b) := by
      refine (common_pairwise ht).imp_of_mem (fun {a b} ha hb hlt => ?_)
      obtain ⟨hat, has⟩ := mem_common_iff.1 ha
      obtain ⟨hbt, hbs⟩ := mem_common_iff.1 hb
      exact (hsame a b has hat hbs hbt).2 hlt
    refine (common_perm hs ht).eq_of_pairwise ?_ (common_pairwise hs) hpairwise
    intro a b _ _ hlt hgt
    omega

theorem difference_reordered (source target : Table) :
    (source.difference target).reordered
      = displaced (source.common target) (target.common source) := by
  have hcontains (names : List String) : names.contains = fun n => decide (n ∈ names) := by
    funext n
    exact List.contains_eq_mem n names
  simp only [difference, common, hcontains]

/-- The names are brought out whose rank among the common names differs. -/
theorem mem_reordered_iff (hs : s.columnNames.Nodup) (ht : t.columnNames.Nodup) :
    n ∈ (s.difference t).reordered ↔
      n ∈ s.columnNames ∧ n ∈ t.columnNames ∧ s.rank t n ≠ t.rank s n := by
  rw [difference_reordered,
    mem_displaced_iff (common_nodup hs) (common_nodup ht) (common_perm hs ht), mem_common_iff,
    and_assoc]
  rfl

theorem reordered_sublist (source target : Table) :
    (source.difference target).reordered.Sublist source.columnNames := by
  rw [difference_reordered]
  exact (displaced_sublist _ _).trans List.filter_sublist

theorem reordered_eq_nil_iff (hs : s.columnNames.Nodup) (ht : t.columnNames.Nodup) :
    (s.difference t).reordered = [] ↔ SameOrder s.columnNames t.columnNames := by
  rw [difference_reordered, displaced_eq_nil_iff (common_perm hs ht).length_eq,
    common_eq_iff hs ht]

end Table

/-! ## Changed columns -/

/-- Two columns of one name that do not agree in type, nullability or default. -/
def Column.Differs (s t : Column) : Prop :=
  s.dataType ≠ t.dataType ∨ s.isNullable ≠ t.isNullable ∨ s.default ≠ t.default

theorem Column.differs_iff {s t : Column} (h : s.name = t.name) : s.Differs t ↔ ¬ s.Matches t := by
  constructor
  · rintro hdiffers hmatch
    rcases hdiffers with htype | hnull | hdefault
    · exact htype hmatch.dataType
    · exact hnull hmatch.isNullable
    · exact hdefault hmatch.default
  · intro hmatch
    by_contra hsame
    simp only [Differs, not_or, not_not] at hsame
    obtain ⟨htype, hnull, hdefault⟩ := hsame
    exact hmatch ⟨h, htype, hnull, hdefault⟩

/-- A change tells how two columns differ: an attribute is present just when it differs, with its
    value in the source and its value in the target. -/
structure ColumnChange.Tells (c : ColumnChange) (s t : Column) : Prop where
  column : c.column = s.name
  dataType : ∀ pair, c.dataType = some pair ↔
    s.dataType ≠ t.dataType ∧ pair = (s.dataType, t.dataType)
  nullable : ∀ pair, c.nullable = some pair ↔
    s.isNullable ≠ t.isNullable ∧ pair = (s.isNullable, t.isNullable)
  default : ∀ pair, c.default = some pair ↔ s.default ≠ t.default ∧ pair = (s.default, t.default)

theorem differing_eq_some_iff {α : Type} [DecidableEq α] (a b : α) (pair : α × α) :
    differing a b = some pair ↔ a ≠ b ∧ pair = (a, b) := by
  unfold differing
  by_cases hab : a = b <;> simp [hab, eq_comm]

theorem Column.change?_eq_some_iff {s t : Column} {c : ColumnChange} :
    s.change? t = some c ↔ ¬ s.Matches t ∧ c = ⟨s.name, differing s.dataType t.dataType,
      differing s.isNullable t.isNullable, differing s.default t.default⟩ := by
  unfold change?
  rw [← sameShape_iff]
  cases s.sameShape t <;> simp [eq_comm]

theorem Column.tells_of_change? {s t : Column} {c : ColumnChange} (h : s.change? t = some c) :
    c.Tells s t := by
  obtain ⟨-, rfl⟩ := change?_eq_some_iff.1 h
  exact ⟨rfl, differing_eq_some_iff _ _, differing_eq_some_iff _ _, differing_eq_some_iff _ _⟩

namespace Table

variable {s t : Table} {n : String} {c : ColumnChange}

theorem mem_changed_iff (ht : t.columnNames.Nodup) :
    c ∈ (s.difference t).changed ↔
      ∃ a ∈ s.columns, ∃ b ∈ t.columns, b.name = a.name ∧ a.change? b = some c := by
  simp only [difference, List.mem_filterMap, Option.bind_eq_some_iff, column?_eq_some_iff ht,
    and_assoc]

/-- The changed columns stand in the order of the source. -/
theorem changed_sublist (source target : Table) :
    ((source.difference target).changed.map ColumnChange.column).Sublist source.columnNames := by
  simp only [difference, columnNames]
  induction source.columns with
  | nil => exact List.nil_sublist _
  | cons a rest ih =>
      rw [List.filterMap_cons, List.map_cons]
      cases hc : (target.column? a.name).bind (fun b => a.change? b) with
      | none => exact ih.cons a.name
      | some c =>
          obtain ⟨b, -, hchange⟩ := Option.bind_eq_some_iff.1 hc
          rw [List.map_cons, (Column.tells_of_change? hchange).column]
          exact ih.cons_cons a.name

/-- There is a change for just those columns that both tables have and that differ. -/
theorem mem_changed_names_iff (ht : t.columnNames.Nodup) :
    n ∈ (s.difference t).changed.map ColumnChange.column ↔
      ∃ a ∈ s.columns, ∃ b ∈ t.columns, a.name = n ∧ b.name = n ∧ a.Differs b := by
  rw [List.mem_map]
  constructor
  · rintro ⟨c, hc, rfl⟩
    obtain ⟨a, ha, b, hb, hname, hchange⟩ := (mem_changed_iff ht).1 hc
    have hcolumn := (Column.tells_of_change? hchange).column
    refine ⟨a, ha, b, hb, hcolumn.symm, hname.trans hcolumn.symm, ?_⟩
    exact (Column.differs_iff hname.symm).2 (Column.change?_eq_some_iff.1 hchange).1
  · rintro ⟨a, ha, b, hb, rfl, hname, hdiffers⟩
    have hchange := Column.change?_eq_some_iff.2 ⟨(Column.differs_iff hname.symm).1 hdiffers, rfl⟩
    exact ⟨_, (mem_changed_iff ht).2 ⟨a, ha, b, hb, hname, hchange⟩, rfl⟩

/-- The change under a name tells how the two columns of that name differ. -/
theorem tells_of_mem_changed (hs : s.columnNames.Nodup) (ht : t.columnNames.Nodup)
    (hc : c ∈ (s.difference t).changed) {a b : Column} (ha : a ∈ s.columns) (hb : b ∈ t.columns)
    (hac : a.name = c.column) (hbc : b.name = c.column) : c.Tells a b := by
  obtain ⟨a', ha', b', hb', hname, hchange⟩ := (mem_changed_iff ht).1 hc
  have htells := Column.tells_of_change? hchange
  obtain rfl : a = a' := List.inj_on_of_nodup_map hs ha ha' (hac.trans htells.column)
  obtain rfl : b = b' :=
    List.inj_on_of_nodup_map ht hb hb' (hbc.trans (htells.column.trans hname.symm))
  exact htells

/-! ## No differences -/

theorem onlyInSource_selects (hs : s.columnNames.Nodup) (t : Table) :
    Selects (s.difference t).onlyInSource s.columnNames (· ∉ t.columnNames) := by
  refine selects_of_sublist hs List.filter_sublist (fun n => ?_)
  simp [difference]

theorem onlyInTarget_selects (s : Table) (ht : t.columnNames.Nodup) :
    Selects (s.difference t).onlyInTarget t.columnNames (· ∉ s.columnNames) := by
  refine selects_of_sublist ht List.filter_sublist (fun n => ?_)
  simp [difference]

theorem changed_eq_nil_iff (ht : t.columnNames.Nodup) :
    (s.difference t).changed = [] ↔
      ∀ a ∈ s.columns, ∀ b ∈ t.columns, a.name = b.name → a.Matches b := by
  rw [← List.map_eq_nil_iff (f := ColumnChange.column), List.eq_nil_iff_forall_not_mem]
  constructor
  · intro h a ha b hb hname
    by_contra hdiffers
    refine h a.name ((mem_changed_names_iff ht).2 ⟨a, ha, b, hb, rfl, hname.symm, ?_⟩)
    exact (Column.differs_iff hname).2 hdiffers
  · intro h n hn
    obtain ⟨a, ha, b, hb, rfl, hname, hdiffers⟩ := (mem_changed_names_iff ht).1 hn
    exact (Column.differs_iff hname.symm).1 hdiffers (h a ha b hb hname.symm)

theorem common_eq_self (h : s.columnNames ⊆ t.columnNames) : s.common t = s.columnNames := by
  unfold common
  rw [List.filter_eq_self]
  intro n hn
  simpa using h hn

/-- Two tables have the same column names if they have the same ones in the same order. -/
theorem columnNames_eq_iff (hs : s.columnNames.Nodup) (ht : t.columnNames.Nodup) :
    s.columnNames = t.columnNames ↔ s.columnNames ⊆ t.columnNames ∧
      t.columnNames ⊆ s.columnNames ∧ SameOrder s.columnNames t.columnNames := by
  constructor
  · intro h
    refine ⟨h ▸ List.Subset.refl _, h ▸ List.Subset.refl _, ?_⟩
    intro a b _ _ _ _
    rw [h]
  · rintro ⟨hsub, hsup, horder⟩
    rw [← common_eq_self hsub, ← common_eq_self hsup]
    exact (common_eq_iff hs ht).2 horder

theorem isEmpty_iff (d : TableDifference) :
    d.isEmpty ↔ d.onlyInSource = [] ∧ d.onlyInTarget = [] ∧ d.changed = [] ∧ d.reordered = [] := by
  simp [TableDifference.isEmpty, and_assoc]

/-- The four parts miss nothing: where all of them are empty the tables match. -/
theorem difference_isEmpty_iff (hs : s.columnNames.Nodup) (ht : t.columnNames.Nodup) :
    (s.difference t).isEmpty ↔ s.Matches t := by
  have hsource : (s.difference t).onlyInSource = [] ↔ s.columnNames ⊆ t.columnNames := by
    rw [(onlyInSource_selects hs t).eq_nil_iff]
    simp only [not_not, List.subset_def]
  have htarget : (s.difference t).onlyInTarget = [] ↔ t.columnNames ⊆ s.columnNames := by
    rw [(onlyInTarget_selects s ht).eq_nil_iff]
    simp only [not_not, List.subset_def]
  rw [isEmpty_iff, hsource, htarget, changed_eq_nil_iff ht, reordered_eq_nil_iff hs ht,
    matches_iff hs ht, columnNames_eq_iff hs ht]
  constructor
  · rintro ⟨hsub, hsup, hcolumns, horder⟩
    exact ⟨⟨hsub, hsup, horder⟩, hcolumns⟩
  · rintro ⟨⟨hsub, hsup, horder⟩, hcolumns⟩
    exact ⟨hsub, hsup, hcolumns, horder⟩

end Table

/-! ## What the differences say -/

/-- The differences between two tables bring out just what there is. -/
structure TableDifference.Describes (d : TableDifference) (source target : Table) : Prop where
  isEmpty : d.isEmpty ↔ source.sameShape target
  onlyInSource : Selects d.onlyInSource source.columnNames (· ∉ target.columnNames)
  onlyInTarget : Selects d.onlyInTarget target.columnNames (· ∉ source.columnNames)
  /-- There is one change for each column that both have and that differs. -/
  changes : Selects (d.changed.map ColumnChange.column) source.columnNames (fun n =>
    ∃ s ∈ source.columns, ∃ t ∈ target.columns, s.name = n ∧ t.name = n ∧ s.Differs t)
  tells : ∀ c ∈ d.changed, ∀ s ∈ source.columns, ∀ t ∈ target.columns,
    s.name = c.column → t.name = c.column → c.Tells s t
  inOrder : d.reordered = [] ↔ SameOrder source.columnNames target.columnNames
  reordered : Selects d.reordered source.columnNames (fun n =>
    n ∈ target.columnNames ∧ source.rank target n ≠ target.rank source n)

/-- Between tables in which no column name occurs twice, the differences are exact. -/
theorem difference_describes (source target : Table) (hs : source.columnNames.Nodup)
    (ht : target.columnNames.Nodup) :
    (source.difference target).Describes source target where
  isEmpty := by rw [Table.difference_isEmpty_iff hs ht, Table.sameShape_iff]
  onlyInSource := Table.onlyInSource_selects hs target
  onlyInTarget := Table.onlyInTarget_selects source ht
  changes := by
    refine selects_of_sublist hs (Table.changed_sublist source target) (fun n => ?_)
    rw [Table.mem_changed_names_iff ht]
    constructor
    · rintro ⟨a, ha, b, hb, rfl, hname, hdiffers⟩
      exact ⟨List.mem_map_of_mem ha, a, ha, b, hb, rfl, hname, hdiffers⟩
    · rintro ⟨-, hdiffers⟩
      exact hdiffers
  tells c hc a ha b hb := Table.tells_of_mem_changed hs ht hc ha hb
  inOrder := Table.reordered_eq_nil_iff hs ht
  reordered := selects_of_sublist hs (Table.reordered_sublist source target)
    (fun _ => Table.mem_reordered_iff hs ht)

/-- A table of books. -/
def Sample.books : Table where
  schema := "public"
  name := "books"
  columns :=
    [⟨"id", "integer", false, none, 1⟩, ⟨"title", "text", false, none, 2⟩,
      ⟨"author", "text", true, none, 3⟩, ⟨"shelf", "text", true, none, 4⟩]
  primaryKey := ["id"]

/-- The same table with the author in front, never missing, and with a year in place of a shelf. -/
def Sample.newBooks : Table where
  schema := "public"
  name := "books"
  columns :=
    [⟨"author", "text", false, some "'unknown'", 1⟩, ⟨"title", "text", false, none, 2⟩,
      ⟨"id", "integer", false, none, 3⟩, ⟨"year", "integer", true, none, 4⟩]
  primaryKey := ["id"]

/-- The title keeps its rank although the order is another one. -/
theorem sample_difference_describes :
    (Sample.books.difference Sample.newBooks).Describes Sample.books Sample.newBooks ∧
      Sample.books.difference Sample.newBooks =
        { onlyInSource := ["shelf"], onlyInTarget := ["year"]
          changed := [⟨"author", none, some (true, false), some (none, some "'unknown'")⟩]
          reordered := ["id", "author"] } ∧
      ¬ SameOrder Sample.books.columnNames Sample.newBooks.columnNames := by
  have hdescribes := difference_describes Sample.books Sample.newBooks (by decide) (by decide)
  refine ⟨hdescribes, by decide, ?_⟩
  rw [← hdescribes.inOrder]
  decide

end Ferry
