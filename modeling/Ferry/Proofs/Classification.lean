import Ferry.Classification
import Ferry.Proofs.Schema.Catalog
import Ferry.Proofs.Schema.Table
import Ferry.Proofs.Text.ByteOrder
import Mathlib.Data.Finset.Card

set_option autoImplicit false

/-! # Classification is a partition

Every table of two catalogs is in just one of the four groups, and which one it is in is told by
what the catalogs have under its name (`Classification.Describes`). The groups are ascending because
the catalogs are, and this is what the search for a name by halving rests on. -/

namespace Ferry

/-! ## Searching by halving -/

section
variable {names : List String} {name a b : String} {i j first count : Nat}

theorem lt_of_getElem? (h : names.Pairwise (· < ·)) (hi : names[i]? = some a)
    (hj : names[j]? = some b) (hij : i < j) : a < b := by
  obtain ⟨hilt, rfl⟩ := List.getElem?_eq_some_iff.1 hi
  obtain ⟨hjlt, rfl⟩ := List.getElem?_eq_some_iff.1 hj
  exact List.pairwise_iff_getElem.1 h i j hilt hjlt hij

/-- A search in ascending names finds what is there: a name that is not at the middle can only be on
    the side on which the search goes on. -/
theorem binarySearch_iff (h : names.Pairwise (· < ·)) (hbound : first + count ≤ names.length) :
    binarySearch names.toArray name first count
      ↔ ∃ i, first ≤ i ∧ i < first + count ∧ names[i]? = some name := by
  fun_induction binarySearch names.toArray name first count with
  | case1 first =>
      simp only [Bool.false_eq_true, false_iff]
      rintro ⟨i, hfirst, hlast, -⟩
      omega
  | case2 first count half hnone =>
      rw [List.getElem?_toArray, List.getElem?_eq_none_iff] at hnone
      omega
  | case3 first count half hfound =>
      rw [List.getElem?_toArray] at hfound
      simp only [true_iff]
      exact ⟨first + half, by omega, by omega, hfound⟩
  | case4 first count half found hfound hne hbefore ih =>
      rw [List.getElem?_toArray] at hfound
      rw [ih (by omega)]
      constructor
      · rintro ⟨i, hfirst, hlast, hi⟩
        exact ⟨i, by omega, by omega, hi⟩
      · rintro ⟨i, hfirst, hlast, hi⟩
        refine ⟨i, ?_, by omega, hi⟩
        by_contra hleft
        rcases Nat.lt_or_eq_of_le (show i ≤ first + half by omega) with hlt | rfl
        · exact lt_asymm hbefore (lt_of_getElem? h hi hfound hlt)
        · exact hne (Option.some.inj (hfound.symm.trans hi))
  | case5 first count half found hfound hne hbehind ih =>
      rw [List.getElem?_toArray] at hfound
      rw [ih (by omega)]
      constructor
      · rintro ⟨i, hfirst, hlast, hi⟩
        exact ⟨i, hfirst, by omega, hi⟩
      · rintro ⟨i, hfirst, hlast, hi⟩
        refine ⟨i, hfirst, ?_, hi⟩
        by_contra hright
        rcases Nat.lt_or_eq_of_le (show first + half ≤ i by omega) with hlt | rfl
        · exact hbehind (lt_of_getElem? h hfound hi hlt)
        · exact hne (Option.some.inj (hfound.symm.trans hi))

end

/-! ## The groups -/

namespace Classification

/-- The names in all groups. -/
def names (c : Classification) : List String :=
  c.identical ++ c.divergent.map Prod.fst ++ c.onlyInSource ++ c.onlyInTarget

/-- A classification tells for every name what the two sides have under it. -/
structure Describes (c : Classification) (source target : String → Option Table) : Prop where
  identical {n} : n ∈ c.identical ↔ ∃ s t, source n = some s ∧ target n = some t ∧ s.Matches t
  divergent {n d} : (n, d) ∈ c.divergent ↔
    ∃ s t, source n = some s ∧ target n = some t ∧ ¬ s.Matches t ∧ d = s.difference t
  onlyInSource {n} : n ∈ c.onlyInSource ↔ source n ≠ none ∧ target n = none
  onlyInTarget {n} : n ∈ c.onlyInTarget ↔ source n = none ∧ target n ≠ none
  /-- Each name of either side is in one group, once; no other name is in any. -/
  count {n} : c.names.count n = if source n = none ∧ target n = none then 0 else 1
  /-- Every group is strictly ascending by the bytes of the names. -/
  ascending : ∀ group ∈ [c.identical, c.divergent.map Prod.fst, c.onlyInSource, c.onlyInTarget],
    (group.map Text.bytes).Pairwise (· < ·)
  isIdentical {n} : c.isIdentical n ↔
    ∃ s t, source n = some s ∧ target n = some t ∧ s.Matches t
  difference? {n d} : c.difference? n = some d ↔
    ∃ s t, source n = some s ∧ target n = some t ∧ ¬ s.Matches t ∧ d = s.difference t

end Classification

section
variable {source target : Catalog} {n : String} {d : TableDifference}

theorem mem_identical_iff :
    n ∈ (classify source target).identical ↔
      ∃ s t, source.get? n = some s ∧ target.get? n = some t ∧ s.Matches t := by
  simp only [classify, List.mem_map, List.mem_filter, Option.any_eq_true, Table.sameShape_iff,
    Catalog.get?_eq_some_iff]
  constructor
  · rintro ⟨s, ⟨hmem, t, ht, hmatch⟩, rfl⟩
    exact ⟨s, t, ⟨hmem, rfl⟩, ht, hmatch⟩
  · rintro ⟨s, t, ⟨hmem, rfl⟩, ht, hmatch⟩
    exact ⟨s, ⟨hmem, t, ht, hmatch⟩, rfl⟩

/-- The entry of a table among the divergent ones, if the other side has the table and differs. -/
theorem divergent_eq : (classify source target).divergent = source.tables.filterMap (fun s =>
    (target.get? s.name).bind
      (fun t => if s.sameShape t then none else some (s.name, s.difference t))) := by
  refine List.filterMap_congr (fun s _ => ?_)
  cases target.get? s.name <;> rfl

theorem divergent_entry_iff {s : Table} {e : String × TableDifference} :
    (target.get? s.name).bind
        (fun t => if s.sameShape t then none else some (s.name, s.difference t)) = some e
      ↔ ∃ t, target.get? s.name = some t ∧ ¬ s.Matches t ∧ e = (s.name, s.difference t) := by
  rw [Option.bind_eq_some_iff]
  refine exists_congr (fun t => and_congr_right (fun _ => ?_))
  rw [← Table.sameShape_iff]
  cases s.sameShape t <;> simp [eq_comm]

theorem mem_divergent_iff :
    (n, d) ∈ (classify source target).divergent ↔
      ∃ s t, source.get? n = some s ∧ target.get? n = some t ∧ ¬ s.Matches t ∧
        d = s.difference t := by
  simp only [divergent_eq, List.mem_filterMap, divergent_entry_iff, Catalog.get?_eq_some_iff,
    Prod.mk.injEq]
  constructor
  · rintro ⟨s, hmem, t, ht, hdiffers, rfl, rfl⟩
    exact ⟨s, t, ⟨hmem, rfl⟩, ht, hdiffers, rfl⟩
  · rintro ⟨s, t, ⟨hmem, rfl⟩, ht, hdiffers, rfl⟩
    exact ⟨s, hmem, t, ht, hdiffers, rfl, rfl⟩

theorem mem_onlyInSource_iff :
    n ∈ (classify source target).onlyInSource ↔ source.get? n ≠ none ∧ target.get? n = none := by
  simp [classify, Catalog.mem_names_iff, Catalog.contains]

theorem mem_onlyInTarget_iff :
    n ∈ (classify source target).onlyInTarget ↔ source.get? n = none ∧ target.get? n ≠ none := by
  simp [classify, Catalog.mem_names_iff, Catalog.contains, and_comm]

/-! ## The groups are ascending -/

theorem identical_pairwise : (classify source target).identical.Pairwise (· < ·) :=
  List.pairwise_map.2 (source.ascending.filter _)

theorem divergent_ascending : Keyed.Ascending (classify source target).divergent := by
  rw [divergent_eq]
  refine List.pairwise_filterMap.2 (source.ascending.imp (fun hlt e he e' he' => ?_))
  -- An entry stands under the name of its table.
  obtain ⟨t, -, -, rfl⟩ := divergent_entry_iff.1 he
  obtain ⟨t', -, -, rfl⟩ := divergent_entry_iff.1 he'
  exact hlt

theorem onlyInSource_pairwise : (classify source target).onlyInSource.Pairwise (· < ·) :=
  source.names_pairwise.filter _

theorem onlyInTarget_pairwise : (classify source target).onlyInTarget.Pairwise (· < ·) :=
  target.names_pairwise.filter _

theorem isIdentical_iff :
    (classify source target).isIdentical n ↔ n ∈ (classify source target).identical := by
  rw [Classification.isIdentical, binarySearch_iff identical_pairwise (Nat.zero_add _).le,
    List.mem_iff_getElem?]
  constructor
  · rintro ⟨i, -, -, hi⟩
    exact ⟨i, hi⟩
  · rintro ⟨i, hi⟩
    obtain ⟨hlt, -⟩ := List.getElem?_eq_some_iff.1 hi
    exact ⟨i, Nat.zero_le i, by omega, hi⟩

theorem difference?_eq_some_iff :
    (classify source target).difference? n = some d ↔ (n, d) ∈ (classify source target).divergent :=
  divergent_ascending.get?_eq_some_iff

/-! ## The partition -/

theorem mem_divergent_names_iff :
    n ∈ (classify source target).divergent.map Prod.fst ↔
      ∃ s t, source.get? n = some s ∧ target.get? n = some t ∧ ¬ s.Matches t := by
  rw [List.mem_map]
  constructor
  · rintro ⟨⟨n, d⟩, hmem, rfl⟩
    obtain ⟨s, t, hs, ht, hdiffers, -⟩ := mem_divergent_iff.1 hmem
    exact ⟨s, t, hs, ht, hdiffers⟩
  · rintro ⟨s, t, hsome, htsome, hdiffers⟩
    exact ⟨(n, s.difference t), mem_divergent_iff.2 ⟨s, t, hsome, htsome, hdiffers, rfl⟩, rfl⟩

theorem pairwise_of_mem_groups {group : List String}
    (h : group ∈ [(classify source target).identical,
      (classify source target).divergent.map Prod.fst, (classify source target).onlyInSource,
      (classify source target).onlyInTarget]) : group.Pairwise (· < ·) := by
  simp only [List.mem_cons, List.not_mem_nil, or_false] at h
  rcases h with rfl | rfl | rfl | rfl
  · exact identical_pairwise
  · exact List.pairwise_map.2 divergent_ascending
  · exact onlyInSource_pairwise
  · exact onlyInTarget_pairwise

theorem count_of_pairwise {group : List String} (h : group.Pairwise (· < ·)) (n : String) :
    group.count n = if n ∈ group then 1 else 0 := List.Nodup.count (h.imp ne_of_lt)

theorem count_names (n : String) :
    (classify source target).names.count n
      = if source.get? n = none ∧ target.get? n = none then 0 else 1 := by
  have hidentical : n ∈ (classify source target).identical ↔ _ := mem_identical_iff
  have hdivergent : n ∈ (classify source target).divergent.map Prod.fst ↔ _ :=
    mem_divergent_names_iff
  have hsource : n ∈ (classify source target).onlyInSource ↔ _ := mem_onlyInSource_iff
  have htarget : n ∈ (classify source target).onlyInTarget ↔ _ := mem_onlyInTarget_iff
  rw [Classification.names, List.count_append, List.count_append, List.count_append,
    count_of_pairwise identical_pairwise,
    count_of_pairwise (List.pairwise_map.2 divergent_ascending),
    count_of_pairwise onlyInSource_pairwise, count_of_pairwise onlyInTarget_pairwise]
  cases hs' : source.get? n with
  | none => cases ht' : target.get? n <;> simp_all
  | some s =>
      cases ht' : target.get? n with
      | none => simp_all
      | some t => by_cases hmatch : s.Matches t <;> simp_all

theorem classify_describes :
    (classify source target).Describes source.get? target.get? where
  identical := mem_identical_iff
  divergent := mem_divergent_iff
  onlyInSource := mem_onlyInSource_iff
  onlyInTarget := mem_onlyInTarget_iff
  count := count_names _
  ascending _ h :=
    List.pairwise_map.2 ((pairwise_of_mem_groups h).imp Text.bytes_lt_iff.2)
  isIdentical := isIdentical_iff.trans mem_identical_iff
  difference? := difference?_eq_some_iff.trans mem_divergent_iff

theorem commonCount_eq :
    (classify source target).commonCount
      = (source.names.toFinset ∩ target.names.toFinset).card := by
  have hnodup : ((classify source target).identical
      ++ (classify source target).divergent.map Prod.fst).Nodup := by
    refine List.Nodup.append (identical_pairwise.imp ne_of_lt)
      ((List.pairwise_map.2 divergent_ascending).imp ne_of_lt) (fun n hn hn' => ?_)
    obtain ⟨s, t, hsome, htsome, hmatch⟩ := mem_identical_iff.1 hn
    obtain ⟨s', t', hsome', htsome', hdiffers⟩ := mem_divergent_names_iff.1 hn'
    cases hsome.symm.trans hsome'
    cases htsome.symm.trans htsome'
    exact hdiffers hmatch
  have hboth : ((classify source target).identical
      ++ (classify source target).divergent.map Prod.fst).toFinset
      = source.names.toFinset ∩ target.names.toFinset := by
    ext n
    simp only [List.mem_toFinset, Finset.mem_inter, List.mem_append, mem_identical_iff,
      mem_divergent_names_iff, Catalog.mem_names_iff]
    constructor
    · rintro (⟨s, t, hsome, htsome, -⟩ | ⟨s, t, hsome, htsome, -⟩) <;> simp [hsome, htsome]
    · rintro ⟨hsome, htsome⟩
      obtain ⟨s, hsome⟩ := Option.ne_none_iff_exists'.1 hsome
      obtain ⟨t, htsome⟩ := Option.ne_none_iff_exists'.1 htsome
      exact (em (s.Matches t)).imp (fun h => ⟨s, t, hsome, htsome, h⟩)
        (fun h => ⟨s, t, hsome, htsome, h⟩)
  rw [← hboth, List.toFinset_card_of_nodup hnodup, List.length_append, List.length_map]
  rfl

end

/-- Tables inserted into two catalogs in any order, some of them perhaps several times, are
    classified by their last versions: every name that was inserted on either side is in just one
    group, in ascending order, and the classification answers for every name whether and how the two
    sides differ. -/
theorem classify_partitions (schema schema' : String) (tables tables' : List Table) :
    (classify (.ofInserts schema tables) (.ofInserts schema' tables')).Describes
        (Catalog.latest? tables) (Catalog.latest? tables') ∧
      (classify (.ofInserts schema tables) (.ofInserts schema' tables')).commonCount
        = ((tables.map Table.name).toFinset ∩ (tables'.map Table.name).toFinset).card := by
  have hlatest : ∀ schema tables, (Catalog.ofInserts schema tables).get? = Catalog.latest? tables :=
    fun schema tables => funext (Catalog.get?_ofInserts schema tables)
  have hnames : ∀ schema tables, (Catalog.ofInserts schema tables).names.toFinset
      = (tables.map Table.name).toFinset := by
    intro schema tables
    ext n
    rw [List.mem_toFinset, List.mem_toFinset, Catalog.mem_names_iff, Catalog.get?_ofInserts,
      Catalog.latest?_ne_none_iff]
  refine ⟨?_, ?_⟩
  · rw [← hlatest schema tables, ← hlatest schema' tables']
    exact classify_describes
  · rw [commonCount_eq, hnames, hnames]

end Ferry
