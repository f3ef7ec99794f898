import Ferry.Proofs.Classification
import Ferry.Proofs.Schema.Difference
import Mathlib.Data.List.Sort

set_option autoImplicit false

/-! # The comparison seen from the other side

With source and target exchanged, the comparison comes out as its own mirror image, although the
code goes through the source and only looks things up in the target. What is listed in the order of
the source, the changes and the names at another place, is the same up to its order; the rest, which
is in the order of its own side or ascending, is the same outright. -/

namespace Ferry

/-! ## Exchanged changes -/

/-- A change seen from the other side: every pair of values is exchanged. -/
def ColumnChange.swap (c : ColumnChange) : ColumnChange where
  column := c.column
  dataType := c.dataType.map Prod.swap
  nullable := c.nullable.map Prod.swap
  default := c.default.map Prod.swap

theorem ColumnChange.swap_involutive : Function.Involutive ColumnChange.swap := by
  intro c
  simp [swap]

theorem map_swap_differing {α : Type} [DecidableEq α] (a b : α) :
    (differing a b).map Prod.swap = differing b a := by
  unfold differing
  by_cases hab : a = b
  · rw [if_pos hab, if_pos hab.symm]
    rfl
  · rw [if_neg hab, if_neg (Ne.symm hab)]
    rfl

theorem Column.change?_swap {s t : Column} {c : ColumnChange} (hname : s.name = t.name)
    (h : s.change? t = some c) : t.change? s = some c.swap := by
  obtain ⟨hdiffers, rfl⟩ := change?_eq_some_iff.1 h
  refine change?_eq_some_iff.2 ⟨fun hmatch => hdiffers hmatch.symm, ?_⟩
  simp only [ColumnChange.swap, map_swap_differing, hname]

/-! ## Exchanged tables -/

/-- One comparison of two tables is the other one seen from the other side. -/
structure TableDifference.Mirrors (d e : TableDifference) : Prop where
  onlyInSource : d.onlyInSource = e.onlyInTarget
  onlyInTarget : d.onlyInTarget = e.onlyInSource
  changed : d.changed.Perm (e.changed.map ColumnChange.swap)
  reordered : d.reordered.Perm e.reordered

namespace Table

variable {s t : Table}

theorem changed_nodup (hs : s.columnNames.Nodup) (t : Table) : (s.difference t).changed.Nodup :=
  ((changed_sublist s t).nodup hs).of_map _

theorem swap_mem_changed (hs : s.columnNames.Nodup) (ht : t.columnNames.Nodup) {c : ColumnChange}
    (hc : c ∈ (s.difference t).changed) : c.swap ∈ (t.difference s).changed := by
  obtain ⟨a, ha, b, hb, hname, hchange⟩ := (mem_changed_iff ht).1 hc
  exact (mem_changed_iff hs).2 ⟨b, hb, a, ha, hname.symm, Column.change?_swap hname.symm hchange⟩

theorem difference_mirrors (hs : s.columnNames.Nodup) (ht : t.columnNames.Nodup) :
    (t.difference s).Mirrors (s.difference t) where
  onlyInSource := rfl
  onlyInTarget := rfl
  changed := by
    have hswap := (changed_nodup hs t).map ColumnChange.swap_involutive.injective
    rw [List.perm_ext_iff_of_nodup (changed_nodup ht s) hswap]
    intro c
    rw [List.mem_map]
    constructor
    · intro hc
      exact ⟨c.swap, swap_mem_changed ht hs hc, ColumnChange.swap_involutive c⟩
    · rintro ⟨c, hc, rfl⟩
      exact swap_mem_changed hs ht hc
  reordered := by
    rw [List.perm_ext_iff_of_nodup ((reordered_sublist t s).nodup ht)
      ((reordered_sublist s t).nodup hs)]
    intro n
    rw [mem_reordered_iff ht hs, mem_reordered_iff hs ht, ne_comm]
    exact and_left_comm

end Table

/-! ## Exchanged catalogs -/

/-- One comparison of two catalogs is the other one seen from the other side. -/
structure Classification.Mirrors (c d : Classification) : Prop where
  identical : c.identical = d.identical
  /-- The same tables diverge, and their differences are mirrored. -/
  divergent : List.Forall₂ (fun e f => e.1 = f.1 ∧ e.2.Mirrors f.2) c.divergent d.divergent
  onlyInSource : c.onlyInSource = d.onlyInTarget
  onlyInTarget : c.onlyInTarget = d.onlyInSource

section
variable {source target : Catalog}

theorem identical_comm :
    (classify target source).identical = (classify source target).identical := by
  refine identical_pairwise.eq_of_mem_iff identical_pairwise (fun n => ?_)
  rw [mem_identical_iff, mem_identical_iff]
  constructor
  · rintro ⟨t, s, htarget, hsource, hmatch⟩
    exact ⟨s, t, hsource, htarget, hmatch.symm⟩
  · rintro ⟨s, t, hsource, htarget, hmatch⟩
    exact ⟨t, s, htarget, hsource, hmatch.symm⟩

theorem divergent_names_comm :
    (classify target source).divergent.map Prod.fst
      = (classify source target).divergent.map Prod.fst := by
  refine (List.pairwise_map.2 divergent_ascending).eq_of_mem_iff
    (List.pairwise_map.2 divergent_ascending) (fun n => ?_)
  rw [mem_divergent_names_iff, mem_divergent_names_iff]
  constructor
  · rintro ⟨t, s, htarget, hsource, hdiffers⟩
    exact ⟨s, t, hsource, htarget, fun hmatch => hdiffers hmatch.symm⟩
  · rintro ⟨s, t, hsource, htarget, hdiffers⟩
    exact ⟨t, s, htarget, hsource, fun hmatch => hdiffers hmatch.symm⟩

/-- The comparison of two catalogs is symmetric, if no table has two columns of one name. -/
theorem classify_mirrors (hnames : ∀ t ∈ source.tables ++ target.tables, t.columnNames.Nodup) :
    (classify target source).Mirrors (classify source target) where
  identical := identical_comm
  divergent := by
    refine forall₂_of_map_eq divergent_names_comm ?_
    rintro ⟨n, d⟩ hd ⟨n', e⟩ he hname
    obtain rfl : n = n' := hname
    obtain ⟨t, s, htarget, hsource, -, rfl⟩ := mem_divergent_iff.1 hd
    obtain ⟨s', t', hsource', htarget', -, rfl⟩ := mem_divergent_iff.1 he
    -- The entries of one name compare the same two tables.
    cases hsource.symm.trans hsource'
    cases htarget.symm.trans htarget'
    have hsmem : s ∈ source.tables := (Catalog.get?_eq_some_iff.1 hsource).1
    have htmem : t ∈ target.tables := (Catalog.get?_eq_some_iff.1 htarget).1
    refine ⟨rfl, Table.difference_mirrors (hnames s ?_) (hnames t ?_)⟩
    · exact List.mem_append_left _ hsmem
    · exact List.mem_append_right _ htmem
  onlyInSource := rfl
  onlyInTarget := rfl

end

/-- A catalog with a table of books, and with one of the same columns for what was lent. -/
def Sample.library : Catalog :=
  ⟨"public", [Sample.books, { Sample.books with name := "loans" }], by decide⟩

/-- The catalog after the books have changed, with one more table. -/
def Sample.newLibrary : Catalog :=
  ⟨"public", [Sample.newBooks, { Sample.books with name := "loans" },
    { Sample.newBooks with name := "orders" }], by decide⟩

/-- The names at another place are the same ones, but they come in the order of the other side. -/
theorem sample_classify_mirrors :
    (classify Sample.newLibrary Sample.library).Mirrors
        (classify Sample.library Sample.newLibrary) ∧
      (classify Sample.newLibrary Sample.library).identical = ["loans"] ∧
      (classify Sample.newLibrary Sample.library).onlyInSource = ["orders"] ∧
      (classify Sample.newLibrary Sample.library).divergent =
        [("books",
          { onlyInSource := ["year"], onlyInTarget := ["shelf"]
            changed := [⟨"author", none, some (false, true), some (some "'unknown'", none)⟩]
            reordered := ["author", "id"] })] := by
  refine ⟨classify_mirrors (by decide), ?_, ?_, ?_⟩ <;> decide

end Ferry
