import Ferry.Text.Blank
import Ferry.Text.Lower
import Mathlib.Data.List.Basic

set_option autoImplicit false

/-! # Texts in lower case

A text that is in lower case stays as it is (`lower_lower`). This rests on the table of mappings, in
which nothing is mapped to a code point that is itself mapped; the table is looked at run by run, by
the ends of the runs. Where the form of a character depends on those around it, these are looked at
up to the first that has no case and cannot be ignored. Blanks and parentheses are such characters,
and the pieces of a text between them are lower-cased on their own (`lowerFrom_split`). -/

namespace Ferry.Text

/-! ## Blanks -/

/-- The characters with the property `White_Space`, one by one. -/
def blanks : List Char :=
  ['\t', '\n', '\x0b', '\x0c', '\r', ' ', '\u0085', '\u00a0', '\u1680', '\u2000', '\u2001',
   '\u2002', '\u2003', '\u2004', '\u2005', '\u2006', '\u2007', '\u2008', '\u2009', '\u200a',
   '\u2028', '\u2029', '\u202f', '\u205f', '\u3000']

theorem mem_blanks_of_isBlank {c : Char} (h : isBlank c = true) : c ∈ blanks := by
  have hmem : c.toNat ∈ blanks.map Char.toNat := by
    simp [isBlank, blanks] at h ⊢
    omega
  rwa [List.mem_map_of_injective (fun a b hab => Char.toNat_inj.1 hab)] at hmem

/-- Characters that nothing is mapped to. -/
def unreached : List Char := '(' :: 'İ' :: blanks

/-! ## Runs -/

namespace LowerRun

/-- The run maps a code point. -/
def Maps (r : LowerRun) (n : Nat) : Prop :=
  r.first ≤ n ∧ n ≤ r.last ∧ (n - r.first) % r.step = 0

/-- What the run maps a code point to. -/
def image (r : LowerRun) (n : Nat) : Nat := ((n : Int) + r.shift).toNat

/-- The run maps nothing into a range of code points. -/
def clears (r : LowerRun) (low high : Nat) : Bool :=
  Nat.blt (r.image r.last) low || Nat.blt high (r.image r.first)

/-- The run maps nothing to a code point that another run maps: the other run lies elsewhere, or it
    has the code points in between. -/
def apart (r s : LowerRun) : Bool :=
  r.clears s.first s.last ||
    s.step == 2 && (r.step == 2 || r.first == r.last) && (r.image r.first + s.first) % 2 == 1

/-- The run maps everything to a character. -/
def reachesCharacters (r : LowerRun) : Bool :=
  r.clears 0 0 && r.clears 0xD800 0xDFFF && Nat.blt (r.image r.last) 0x110000

variable {r s : LowerRun} {n low high : Nat}

theorem not_mem_of_clears (h : r.clears low high = true) (hn : r.Maps n) :
    ¬ (low ≤ r.image n ∧ r.image n ≤ high) := by
  simp only [clears, Bool.or_eq_true, Nat.blt_eq] at h
  unfold Maps image at *
  omega

theorem not_maps_of_apart (h : r.apart s = true) (hzero : r.clears 0 0 = true) (hn : r.Maps n) :
    ¬ s.Maps (r.image n) := by
  rintro ⟨hfirst, hlast, hstep⟩
  simp only [apart, Bool.or_eq_true, Bool.and_eq_true, beq_iff_eq] at h
  rcases h with h | ⟨⟨htwo, hwide⟩, hodd⟩
  · exact not_mem_of_clears h hn ⟨hfirst, hlast⟩
  · -- The images are an odd number away from the first code point of the other run.
    obtain ⟨hge, hle, hmod⟩ := hn
    simp only [clears, Bool.or_eq_true, Nat.blt_eq] at hzero
    rw [htwo] at hstep
    unfold image at *
    rcases hwide with hr | hr
    · rw [hr] at hmod
      omega
    · omega

theorem toNat_image (h : r.reachesCharacters = true) (hn : r.Maps n) :
    (Char.ofNat (r.image n)).toNat = r.image n := by
  simp only [reachesCharacters, Bool.and_eq_true, Nat.blt_eq] at h
  obtain ⟨⟨-, hsurrogates⟩, hbound⟩ := h
  have hgap := not_mem_of_clears hsurrogates hn
  have hvalid : (r.image n).isValidChar := by
    unfold Maps image Nat.isValidChar at *
    omega
  rw [Char.ofNat, dif_pos hvalid]
  rfl

end LowerRun

theorem lowerRuns_apart : (lowerRuns.all fun r => lowerRuns.all r.apart) = true := by
  decide +kernel

theorem lowerRuns_reach : lowerRuns.all LowerRun.reachesCharacters = true := by
  decide +kernel

theorem lowerRuns_clear :
    (lowerRuns.all fun r => unreached.all fun c => r.clears c.toNat c.toNat) = true := by
  decide +kernel

/-! ## Characters -/

/-- A character that stays as it is, whatever stands around it. -/
structure IsLower (c : Char) : Prop where
  not_sigma : c ≠ 'Σ'
  not_dotted : c ≠ 'İ'
  fixed : lowerChar c = c

/-- A character that separates what stands on its two sides: it stays as it is, has no case and
    cannot be ignored. -/
structure IsBoundary (c : Char) : Prop extends IsLower c where
  not_ignorable : isCaseIgnorable c = false
  not_cased : isCased c = false

/-- What lower-casing may put in the place of a character. -/
structure Lowers (c d : Char) : Prop where
  lower : IsLower d
  blank : isBlank d = isBlank c
  opening : d = '(' ↔ c = '('

section
variable {c d : Char} {before rest : List Char}

theorem isBoundary_of_mem (h : c ∈ '(' :: blanks) : IsBoundary c := by
  have hall : ('(' :: blanks).all (fun c => (c ≠ 'Σ' ∧ c ≠ 'İ' ∧ lowerChar c = c) ∧
      isCaseIgnorable c = false ∧ isCased c = false) = true := by decide +kernel
  obtain ⟨⟨hsigma, hdotted, hfixed⟩, hignorable, hcased⟩ :=
    of_decide_eq_true (List.all_eq_true.1 hall c h)
  exact ⟨⟨hsigma, hdotted, hfixed⟩, hignorable, hcased⟩

theorem isBoundary_opening : IsBoundary '(' := isBoundary_of_mem (.head _)

theorem isBoundary_of_isBlank (h : isBlank c = true) : IsBoundary c :=
  isBoundary_of_mem (.tail _ (mem_blanks_of_isBlank h))

/-- A character is mapped by a run of the table or not at all. -/
theorem lowerChar_cases (c : Char) : lowerChar c = c ∨
    ∃ r ∈ lowerRuns, r.Maps c.toNat ∧ lowerChar c = Char.ofNat (r.image c.toNat) := by
  by_cases hc : c.toNat < 0x80
  · -- The capital letters of ASCII are the first run.
    have hascii : ∀ n < 0x80, (Char.ofNat n).toLower = Char.ofNat n ∨
        (65 ≤ n ∧ n ≤ 90) ∧ (Char.ofNat n).toLower = Char.ofNat (n + 32) := by decide
    have hcases := hascii c.toNat hc
    rw [Char.ofNat_toNat] at hcases
    rw [lowerChar, if_pos hc]
    refine hcases.imp_right (fun ⟨⟨hlow, hhigh⟩, heq⟩ => ?_)
    exact ⟨⟨65, 90, 1, 32⟩, .head _, ⟨hlow, hhigh, Nat.mod_one _⟩, heq⟩
  · rw [lowerChar, if_neg hc]
    cases hfind : lowerRuns.find? (fun r => c.toNat ≤ r.last) with
    | none => exact .inl rfl
    | some r =>
        by_cases hmaps : r.first ≤ c.toNat ∧ (c.toNat - r.first) % r.step = 0
        · have hlast : c.toNat ≤ r.last := by
            simpa using List.find?_some hfind
          exact .inr ⟨r, List.mem_of_find?_eq_some hfind, ⟨hmaps.1, hlast, hmaps.2⟩, if_pos hmaps⟩
        · exact .inl (if_neg hmaps)

theorem image_notMem_unreached {r : LowerRun} {n : Nat} (hr : r ∈ lowerRuns) (hmaps : r.Maps n) :
    Char.ofNat (r.image n) ∉ unreached := by
  intro hmem
  have hclear := List.all_eq_true.1 (List.all_eq_true.1 lowerRuns_clear r hr) _ hmem
  have htoNat := LowerRun.toNat_image (List.all_eq_true.1 lowerRuns_reach r hr) hmaps
  rw [htoNat] at hclear
  exact LowerRun.not_mem_of_clears hclear hmaps ⟨Nat.le_refl _, Nat.le_refl _⟩

theorem lowerChar_image {r : LowerRun} {n : Nat} (hr : r ∈ lowerRuns) (hmaps : r.Maps n) :
    lowerChar (Char.ofNat (r.image n)) = Char.ofNat (r.image n) := by
  have hreach := List.all_eq_true.1 lowerRuns_reach r hr
  rcases lowerChar_cases (Char.ofNat (r.image n)) with h | ⟨s, hs, hmaps', -⟩
  · exact h
  · rw [LowerRun.toNat_image hreach hmaps] at hmaps'
    have hapart := List.all_eq_true.1 (List.all_eq_true.1 lowerRuns_apart r hr) s hs
    simp only [LowerRun.reachesCharacters, Bool.and_eq_true] at hreach
    exact absurd hmaps' (LowerRun.not_maps_of_apart hapart hreach.1.1 hmaps)

theorem lowers_lowerChar (hsigma : c ≠ 'Σ') (hdotted : c ≠ 'İ') : Lowers c (lowerChar c) := by
  by_cases hfixed : lowerChar c = c
  · rw [hfixed]
    exact ⟨⟨hsigma, hdotted, hfixed⟩, rfl, Iff.rfl⟩
  · -- A character that changes is neither a blank nor a parenthesis, nor is what it becomes.
    obtain ⟨r, hr, hmaps, heq⟩ := (lowerChar_cases c).resolve_left hfixed
    have hnot : lowerChar c ∉ unreached := heq ▸ image_notMem_unreached hr hmaps
    have hlower : lowerChar (lowerChar c) = lowerChar c := heq ▸ lowerChar_image hr hmaps
    refine ⟨⟨?_, ?_, hlower⟩, ?_, ?_⟩
    · intro h
      rw [h] at hlower
      exact absurd hlower (by decide)
    · intro h
      exact hnot (h ▸ .tail _ (.head _))
    · have hbefore : isBlank c ≠ true := fun h => hfixed (isBoundary_of_isBlank h).fixed
      have hafter : isBlank (lowerChar c) ≠ true := fun h =>
        hnot (.tail _ (.tail _ (mem_blanks_of_isBlank h)))
      rw [Bool.eq_false_iff.2 hbefore, Bool.eq_false_iff.2 hafter]
    · refine iff_of_false (fun h => hnot (h ▸ .head _)) ?_
      rintro rfl
      exact hfixed isBoundary_opening.fixed

/-- What stands for a character in lower case. -/
def lowered (before : List Char) (c : Char) (rest : List Char) : List Char :=
  if c = 'Σ' then
    if casedFollows before && !casedFollows rest then ['ς'] else ['σ']
  else if c = 'İ' then ['i', '\u0307']
  else [lowerChar c]

theorem lowerFrom_cons : lowerFrom before (c :: rest)
    = lowered before c rest ++ lowerFrom (c :: before) rest := rfl

theorem lowers_of_mem_lowered (h : d ∈ lowered before c rest) : Lowers c d := by
  have hlower : ['ς', 'σ', 'i', '\u0307'].all (fun d => (d ≠ 'Σ' ∧ d ≠ 'İ' ∧ lowerChar d = d) ∧
      isBlank d = false ∧ d ≠ '(') = true := by decide
  have hspecial : ∀ d ∈ ['ς', 'σ', 'i', '\u0307'], c = 'Σ' ∨ c = 'İ' → Lowers c d := by
    intro d hd hc
    obtain ⟨⟨hsigma, hdotted, hfixed⟩, hblank, hopening⟩ :=
      of_decide_eq_true (List.all_eq_true.1 hlower d hd)
    refine ⟨⟨hsigma, hdotted, hfixed⟩, ?_, iff_of_false hopening ?_⟩
    · rw [hblank]
      rcases hc with rfl | rfl <;> rfl
    · rcases hc with rfl | rfl <;> decide
  unfold lowered at h
  split at h
  · next hsigma =>
      refine hspecial d ?_ (.inl hsigma)
      split at h <;> simp_all
  · split at h
    · next hdotted => exact hspecial d (.tail _ (.tail _ h)) (.inr hdotted)
    · next hsigma hdotted =>
        rw [List.mem_singleton.1 h]
        exact lowers_lowerChar hsigma hdotted

/-- One character stands for another, and two for the capital dotted I. -/
theorem length_lowered (before : List Char) (c : Char) (rest : List Char) :
    (lowered before c rest).length = 1 + [c].count 'İ' := by
  unfold lowered
  split
  · next h =>
      subst h
      split <;> rfl
  · split
    · next h =>
        subst h
        rfl
    · next h => simp [h]

theorem lowered_ne_nil (before : List Char) (c : Char) (rest : List Char) :
    lowered before c rest ≠ [] := by
  intro hnil
  have hlength := length_lowered before c rest
  rw [hnil, List.length_nil] at hlength
  omega

theorem lowered_of_isLower (h : IsLower c) : lowered before c rest = [c] := by
  rw [lowered, if_neg h.not_sigma, if_neg h.not_dotted, h.fixed]

end

/-! ## Texts -/

section
variable {c d : Char} {before cs xs ys : List Char}

theorem exists_lowers_of_mem (h : d ∈ lowerFrom before cs) : ∃ c ∈ cs, Lowers c d := by
  induction cs generalizing before with
  | nil => exact absurd h List.not_mem_nil
  | cons c rest ih =>
      rw [lowerFrom_cons, List.mem_append] at h
      rcases h with h | h
      · exact ⟨c, List.mem_cons_self, lowers_of_mem_lowered h⟩
      · obtain ⟨c', hc', hlowers⟩ := ih h
        exact ⟨c', List.mem_cons_of_mem _ hc', hlowers⟩

theorem lowerFrom_of_isLower (h : ∀ c ∈ cs, IsLower c) : lowerFrom before cs = cs := by
  induction cs generalizing before with
  | nil => rfl
  | cons c rest ih =>
      obtain ⟨hc, hrest⟩ := List.forall_mem_cons.1 h
      rw [lowerFrom_cons, lowered_of_isLower hc, ih hrest, List.singleton_append]

/-- A text in lower case stays as it is. -/
theorem lower_lower (s : String) : lower (lower s) = lower s := by
  unfold lower
  rw [String.toList_ofList, lowerFrom_of_isLower]
  intro d hd
  obtain ⟨c, -, hlowers⟩ := exists_lowers_of_mem hd
  exact hlowers.lower

theorem length_lowerFrom (before cs : List Char) :
    (lowerFrom before cs).length = cs.length + cs.count 'İ' := by
  induction cs generalizing before with
  | nil => rfl
  | cons c rest ih =>
      have hcount : ([c] ++ rest).count 'İ' = [c].count 'İ' + rest.count 'İ' := List.count_append
      rw [List.singleton_append] at hcount
      rw [lowerFrom_cons, List.length_append, length_lowered, ih, List.length_cons, hcount]
      omega

theorem casedFollows_append (h : IsBoundary c) (xs ys : List Char) :
    casedFollows (xs ++ c :: ys) = casedFollows xs := by
  induction xs with
  | nil =>
      rw [List.nil_append, casedFollows, List.dropWhile_cons_of_neg (by simp [h.not_ignorable])]
      exact h.not_cased
  | cons x rest ih =>
      rw [List.cons_append]
      cases hx : isCaseIgnorable x with
      | true =>
          simp only [casedFollows, List.dropWhile_cons, hx, if_true] at ih ⊢
          exact ih
      | false => simp only [casedFollows, List.dropWhile_cons, hx, Bool.false_eq_true, if_false]

/-- What stands beyond a boundary has no effect. -/
theorem lowerFrom_beyond (h : IsBoundary c) (before far cs : List Char) :
    lowerFrom (before ++ c :: far) cs = lowerFrom before cs := by
  induction cs generalizing before with
  | nil => rfl
  | cons x rest ih =>
      have hrest := ih (x :: before)
      rw [List.cons_append] at hrest
      rw [lowerFrom_cons, lowerFrom_cons, hrest, lowered, lowered, casedFollows_append h]

/-- What stands on the two sides of a boundary is lower-cased on its own. -/
theorem lowerFrom_split (h : IsBoundary c) (before xs ys : List Char) :
    lowerFrom before (xs ++ c :: ys) = lowerFrom before xs ++ c :: lowerFrom [] ys := by
  induction xs generalizing before with
  | nil =>
      have hys := lowerFrom_beyond h [] before ys
      rw [List.nil_append] at hys
      rw [List.nil_append, lowerFrom_cons, lowered_of_isLower h.toIsLower, hys]
      rfl
  | cons x rest ih =>
      have hx : lowered before x (rest ++ c :: ys) = lowered before x rest := by
        rw [lowered, lowered, casedFollows_append h]
      rw [List.cons_append, lowerFrom_cons, lowerFrom_cons, ih, hx, List.append_assoc]

end

end Ferry.Text
