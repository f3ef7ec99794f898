import Ferry.Proofs.Text.Lower
import Mathlib.Data.List.DropRight
import Mathlib.Data.List.Induction

set_option autoImplicit false

/-! # Cutting and trimming a text

A text can be cut at its first opening parenthesis before it is lower-cased or after, and so can it
be trimmed (`trim_lower`). More than blanks behind a text make the trimmed text longer, and so they
do in lower case (`lower_trim_append_iff`). -/

namespace Ferry.Text

/-! ## Cutting at a parenthesis -/

/-- What stands in front of the first opening parenthesis. -/
def beforeOpening (cs : List Char) : List Char := cs.takeWhile (· ≠ '(')

section
variable {before cs xs : List Char}

theorem beforeOpening_of_notMem (h : '(' ∉ cs) : beforeOpening cs = cs := by
  refine List.takeWhile_eq_self_iff.2 (fun c hc => decide_eq_true ?_)
  rintro rfl
  exact h hc

theorem beforeOpening_append (h : '(' ∉ xs) (ys : List Char) :
    beforeOpening (xs ++ '(' :: ys) = xs := by
  have hxs : ∀ c ∈ xs, decide (c ≠ '(') = true :=
    List.takeWhile_eq_self_iff.1 (beforeOpening_of_notMem h)
  rw [beforeOpening, List.takeWhile_append_of_pos hxs, List.takeWhile_cons_of_neg (by simp),
    List.append_nil]

theorem beforeOpening_append_of_mem (h : '(' ∈ xs) (ys : List Char) :
    beforeOpening (xs ++ ys) = beforeOpening xs := by
  obtain ⟨front, back, rfl, hfront⟩ := List.eq_append_cons_of_mem h
  rw [List.append_assoc, List.cons_append, beforeOpening_append hfront, beforeOpening_append hfront]

theorem opening_notMem_beforeOpening (cs : List Char) : '(' ∉ beforeOpening cs := by
  intro hmem
  have hne := List.mem_takeWhile_imp hmem
  exact of_decide_eq_true hne rfl

theorem opening_notMem_lowerFrom (h : '(' ∉ cs) : '(' ∉ lowerFrom before cs := by
  intro hmem
  obtain ⟨c, hc, hlowers⟩ := exists_lowers_of_mem hmem
  exact h (hlowers.opening.1 rfl ▸ hc)

/-- The text up to a parenthesis is lower-cased on its own. -/
theorem beforeOpening_lowerFrom (cs : List Char) :
    beforeOpening (lowerFrom [] cs) = lowerFrom [] (beforeOpening cs) := by
  by_cases hcs : '(' ∈ cs
  · obtain ⟨xs, ys, rfl, hxs⟩ := List.eq_append_cons_of_mem hcs
    rw [lowerFrom_split isBoundary_opening, beforeOpening_append hxs,
      beforeOpening_append (opening_notMem_lowerFrom hxs)]
  · rw [beforeOpening_of_notMem hcs, beforeOpening_of_notMem (opening_notMem_lowerFrom hcs)]

end

/-! ## Blanks at the ends -/

/-- What is left without the blanks at the two ends. -/
def trimmed (cs : List Char) : List Char := dropBlankEnd (cs.dropWhile isBlank)

section
variable {c : Char} {xs ys : List Char}

theorem trim_eq (s : String) : trim s = String.ofList (trimmed s.toList) := rfl

theorem dropBlankEnd_concat_of_isBlank (h : isBlank c = true) (xs : List Char) :
    dropBlankEnd (xs ++ [c]) = dropBlankEnd xs :=
  List.rdropWhile_concat_pos isBlank xs c h

theorem dropBlankEnd_concat_of_not_isBlank (h : isBlank c = false) (xs : List Char) :
    dropBlankEnd (xs ++ [c]) = xs ++ [c] :=
  List.rdropWhile_concat_neg isBlank xs c (by simp [h])

theorem dropBlankEnd_append_of_isBlank (xs : List Char) (h : ∀ c ∈ ys, isBlank c = true) :
    dropBlankEnd (xs ++ ys) = dropBlankEnd xs := by
  have hreverse : ∀ c ∈ ys.reverse, isBlank c = true := fun c hc => h c (List.mem_reverse.1 hc)
  rw [dropBlankEnd, List.reverse_append, List.dropWhile_append_of_pos hreverse]
  rfl

theorem dropBlankEnd_append_of_ne_nil (xs : List Char) (h : dropBlankEnd ys ≠ []) :
    dropBlankEnd (xs ++ ys) = xs ++ dropBlankEnd ys := by
  have hreverse : ys.reverse.dropWhile isBlank ≠ [] := by
    intro hnil
    rw [dropBlankEnd, hnil] at h
    exact h rfl
  rw [dropBlankEnd, List.reverse_append, List.dropWhile_append,
    if_neg (by rwa [List.isEmpty_iff]), List.reverse_append, List.reverse_reverse]
  rfl

theorem exists_blank_end (cs : List Char) :
    ∃ bs, cs = dropBlankEnd cs ++ bs ∧ ∀ b ∈ bs, isBlank b = true := by
  refine ⟨cs.rtakeWhile isBlank, ?_, fun b hb => List.mem_rtakeWhile_imp hb⟩
  exact List.rdropWhile_append_rtakeWhile.symm

theorem trimmed_append_of_isBlank (xs : List Char) (h : ∀ c ∈ ys, isBlank c = true) :
    trimmed (xs ++ ys) = trimmed xs := by
  rw [trimmed, trimmed, List.dropWhile_append]
  split
  · next hxs => rw [List.isEmpty_iff.1 hxs, List.dropWhile_eq_nil_iff.2 h]
  · exact dropBlankEnd_append_of_isBlank _ h

/-- It does not matter which end is trimmed first. -/
theorem dropWhile_dropBlankEnd (cs : List Char) :
    (dropBlankEnd cs).dropWhile isBlank = trimmed cs := by
  induction cs using List.reverseRecOn with
  | nil => rfl
  | append_singleton xs c ih =>
      cases hc : isBlank c with
      | true =>
          rw [dropBlankEnd_concat_of_isBlank hc, ih]
          exact (trimmed_append_of_isBlank xs (List.forall_mem_singleton.2 hc)).symm
      | false =>
          have hdrop : (xs ++ [c]).dropWhile isBlank = xs.dropWhile isBlank ++ [c] := by
            rw [List.dropWhile_append]
            split
            · next hxs =>
                rw [List.isEmpty_iff.1 hxs, List.dropWhile_cons_of_neg (by simp [hc]),
                  List.nil_append]
            · rfl
          rw [dropBlankEnd_concat_of_not_isBlank hc, trimmed, hdrop,
            dropBlankEnd_concat_of_not_isBlank hc]

theorem trimmed_trimmed (cs : List Char) : trimmed (trimmed cs) = trimmed cs := by
  conv_lhs => rw [← dropWhile_dropBlankEnd (trimmed cs)]
  have hend : dropBlankEnd (trimmed cs) = trimmed cs := List.rdropWhile_idempotent isBlank _
  rw [hend, ← dropWhile_dropBlankEnd cs, List.dropWhile_idempotent]

theorem trimmed_eq_nil_iff : trimmed xs = [] ↔ ∀ c ∈ xs, isBlank c = true := by
  induction xs with
  | nil => simp [trimmed, dropBlankEnd]
  | cons c rest ih =>
      cases hc : isBlank c with
      | true =>
          have hrest : trimmed (c :: rest) = trimmed rest := by
            rw [trimmed, List.dropWhile_cons_of_pos hc, trimmed]
          simp [hrest, ih, hc]
      | false =>
          rw [trimmed, List.dropWhile_cons_of_neg (by simp [hc])]
          exact List.rdropWhile_eq_nil_iff

/-- More than blanks behind a text make the trimmed text longer. -/
theorem exists_trimmed_append (xs : List Char) (h : trimmed ys ≠ []) :
    ∃ rest, rest ≠ [] ∧ trimmed (xs ++ ys) = trimmed xs ++ rest := by
  have hend : dropBlankEnd ys ≠ [] := by
    intro hnil
    rw [← dropWhile_dropBlankEnd, hnil] at h
    exact h rfl
  cases hxs : (xs.dropWhile isBlank).isEmpty with
  | true =>
      have hnil := List.isEmpty_iff.1 hxs
      refine ⟨trimmed ys, h, ?_⟩
      rw [trimmed, List.dropWhile_append, if_pos hxs, trimmed, trimmed, hnil]
      rfl
  | false =>
      obtain ⟨bs, hbs, -⟩ := exists_blank_end (xs.dropWhile isBlank)
      refine ⟨bs ++ dropBlankEnd ys, List.append_ne_nil_of_right_ne_nil _ hend, ?_⟩
      rw [trimmed, List.dropWhile_append, if_neg (by simp [hxs]),
        dropBlankEnd_append_of_ne_nil _ hend, trimmed, ← List.append_assoc, ← hbs]

theorem dropWhile_beforeOpening (cs : List Char) :
    (beforeOpening cs).dropWhile isBlank = beforeOpening (cs.dropWhile isBlank) := by
  induction cs with
  | nil => rfl
  | cons c rest ih =>
      cases hc : isBlank c with
      | true =>
          have hne : c ≠ '(' := by
            rintro rfl
            cases hc
          rw [List.dropWhile_cons_of_pos hc, ← ih, beforeOpening,
            List.takeWhile_cons_of_pos (by simpa using hne), List.dropWhile_cons_of_pos hc]
          rfl
      | false =>
          rw [List.dropWhile_cons_of_neg (by simp [hc]), beforeOpening, List.takeWhile_cons]
          split
          · exact List.dropWhile_cons_of_neg (by simp [hc])
          · rfl

/-- A text can be trimmed before it is cut and once more behind the cut, or only then. -/
theorem dropBlankEnd_beforeOpening_trimmed (cs : List Char) :
    dropBlankEnd (beforeOpening (trimmed cs)) = trimmed (beforeOpening cs) := by
  rw [trimmed, trimmed, dropWhile_beforeOpening]
  obtain ⟨bs, hsplit, hbs⟩ := exists_blank_end (cs.dropWhile isBlank)
  conv_rhs => rw [hsplit]
  by_cases hmem : '(' ∈ dropBlankEnd (cs.dropWhile isBlank)
  · rw [beforeOpening_append_of_mem hmem]
  · have hblank : '(' ∉ bs := fun h => Bool.false_ne_true (hbs _ h)
    rw [beforeOpening_of_notMem hmem, beforeOpening_of_notMem (by simp [hmem, hblank]),
      dropBlankEnd_append_of_isBlank _ hbs]

end

/-! ## Trimming and lower case -/

section
variable {p q : String}

theorem dropWhile_lowerFrom (cs : List Char) :
    (lowerFrom [] cs).dropWhile isBlank = lowerFrom [] (cs.dropWhile isBlank) := by
  induction cs with
  | nil => rfl
  | cons c rest ih =>
      cases hc : isBlank c with
      | true =>
          have hsplit := lowerFrom_split (isBoundary_of_isBlank hc) [] [] rest
          rw [List.nil_append] at hsplit
          rw [hsplit, lowerFrom, List.nil_append, List.dropWhile_cons_of_pos hc, ih,
            List.dropWhile_cons_of_pos hc]
      | false =>
          rw [List.dropWhile_cons_of_neg (by simp [hc]), lowerFrom_cons]
          cases hlowered : lowered [] c rest with
          | nil => exact absurd hlowered (lowered_ne_nil [] c rest)
          | cons d ds =>
              have hd : isBlank d = isBlank c :=
                (lowers_of_mem_lowered (hlowered ▸ List.mem_cons_self)).blank
              exact List.dropWhile_cons_of_neg (by simp [hd, hc])

theorem exists_lowerFrom_concat (before xs : List Char) (c : Char) :
    ∃ ys d, lowerFrom before (xs ++ [c]) = ys ++ [d] ∧ isBlank d = isBlank c := by
  induction xs generalizing before with
  | nil =>
      have hlast := lowered_ne_nil before c []
      refine ⟨(lowered before c []).dropLast, (lowered before c []).getLast hlast, ?_,
        (lowers_of_mem_lowered (List.getLast_mem hlast)).blank⟩
      rw [List.dropLast_append_getLast, List.nil_append, lowerFrom_cons, lowerFrom, List.append_nil]
  | cons x rest ih =>
      obtain ⟨ys, d, heq, hd⟩ := ih (x :: before)
      refine ⟨lowered before x (rest ++ [c]) ++ ys, d, ?_, hd⟩
      rw [List.cons_append, lowerFrom_cons, heq, List.append_assoc]

/-- By induction from the back: blanks at the end stay what they are. -/
theorem dropBlankEnd_lowerFrom (cs : List Char) :
    dropBlankEnd (lowerFrom [] cs) = lowerFrom [] (dropBlankEnd cs) := by
  induction cs using List.reverseRecOn with
  | nil => rfl
  | append_singleton xs c ih =>
      cases hc : isBlank c with
      | true =>
          rw [lowerFrom_split (isBoundary_of_isBlank hc), lowerFrom,
            dropBlankEnd_concat_of_isBlank hc, dropBlankEnd_concat_of_isBlank hc, ih]
      | false =>
          obtain ⟨ys, d, heq, hd⟩ := exists_lowerFrom_concat [] xs c
          rw [dropBlankEnd_concat_of_not_isBlank hc, heq,
            dropBlankEnd_concat_of_not_isBlank (hd.trans hc)]

/-- A text can be trimmed before it is lower-cased or after. -/
theorem trim_lower (s : String) : trim (lower s) = lower (trim s) := by
  simp only [trim, lower, String.toList_ofList, dropWhile_lowerFrom, dropBlankEnd_lowerFrom]

theorem trim_trim (s : String) : trim (trim s) = trim s := by
  simp only [trim_eq, String.toList_ofList, trimmed_trimmed]

/-- Only blanks behind a text are lost when it is trimmed and lower-cased: anything else leaves a
    character more. -/
theorem lower_trim_append_iff :
    lower (trim (p ++ q)) = lower (trim p) ↔ ∀ c ∈ q.toList, isBlank c = true := by
  simp only [trim_eq, lower, String.toList_ofList, String.toList_append, String.ofList_inj]
  constructor
  · intro h
    refine trimmed_eq_nil_iff.1 (Decidable.byContradiction fun hq => ?_)
    obtain ⟨rest, hrest, happend⟩ := exists_trimmed_append p.toList hq
    have hlength := congrArg List.length h
    rw [happend, length_lowerFrom, length_lowerFrom, List.length_append, List.count_append]
      at hlength
    exact hrest (List.length_eq_zero_iff.1 (by omega))
  · intro h
    rw [trimmed_append_of_isBlank _ h]

end

end Ferry.Text
