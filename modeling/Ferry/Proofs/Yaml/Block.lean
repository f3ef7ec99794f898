import Ferry.Proofs.Yaml.Scalar

set_option autoImplicit false

/-! # Texts at an indentation

A text of several lines is written as a block that ends where a line is less indented. So a text at
an indentation, with the end of its last line, is told from every other one by how it is written,
whatever stands behind it that is less indented (`text_append_inj`). -/

namespace Ferry.Yaml

/-! ## The end of a line -/

/-- A text with the end of its last line. -/
def ended (s : String) : List Char :=
  s.toList ++ if s.toList.getLast?.any isBreak then [] else ['\n']

/-- What stands behind a collection or a block at an indentation: the end of the text, or a line
    that is less indented. -/
inductive Outdented (indent : Nat) : List Char → Prop
  | done : Outdented indent []
  | line {margin : Nat} {c : Char} {rest : List Char} (hmargin : margin < indent)
      (hblank : c ≠ ' ') (hbreak : isBreak c = false) :
      Outdented indent (List.replicate margin ' ' ++ c :: rest)

section
variable {indent : Nat} {s t : String} {c d : Char} {cs ds rest rest' : List Char}

theorem ended_append (ht : t ≠ "") : ended (s ++ t) = s.toList ++ ended t := by
  have hne : t.toList ≠ [] := fun h => ht (String.toList_inj.1 h)
  rw [ended, ended, String.toList_append, List.getLast?_append,
    Option.or_of_isSome (List.getLast?_isSome.2 hne), List.append_assoc]

/-- Behind a line that has begun even nothing has the end of a line. -/
theorem ended_append_of_begun (hs : s.toList.getLast?.any isBreak = false) :
    ended (s ++ t) = s.toList ++ ended t := by
  by_cases ht : t = ""
  · simp [ht, ended, hs]
  · exact ended_append ht

theorem Outdented.weaken {n : Nat} (h : Outdented indent rest) (hn : indent ≤ n) :
    Outdented n rest := by
  cases h with
  | done => exact .done
  | line hmargin hblank hbreak => exact .line (by omega) hblank hbreak

/-- A line that is less indented does not begin with that many blanks. -/
theorem Outdented.ne_replicate (h : Outdented indent rest) :
    rest ≠ List.replicate indent ' ' ++ c :: cs := by
  cases h with
  | done => simp
  | line hmargin hblank _ =>
      obtain ⟨more, rfl⟩ := Nat.exists_eq_add_of_lt hmargin
      intro h
      rw [Nat.add_assoc, ← List.replicate_append_replicate, List.append_assoc,
        List.replicate_succ] at h
      exact hblank (List.cons.inj (List.append_cancel_left h)).1

theorem Outdented.ne_break (h : Outdented indent rest) (hc : isBreak c = true) :
    rest ≠ c :: cs := by
  cases h with
  | done => simp
  | line _ _ hbreak =>
      intro h
      have hnone := not_isBreak_of_lead hbreak (show lead _ true ++ _ :: _ = _ from h)
      simp [hc] at hnone

/-! ## Blocks -/

/-- Whether a line begins behind some characters; `atStart` tells whether one begins in front. -/
def BeginsLine (atStart : Bool) : List Char → Prop
  | [] => atStart = true
  | c :: rest => BeginsLine (isBreak c) rest

theorem beginsLine_iff {atStart : Bool} (h : cs ≠ []) :
    BeginsLine atStart cs ↔ cs.getLast?.any isBreak = true := by
  induction cs generalizing atStart with
  | nil => exact absurd rfl h
  | cons c cs ih =>
      rw [BeginsLine]
      cases cs with
      | nil => simp [BeginsLine]
      | cons d ds => rw [ih (by simp), List.getLast?_cons_cons]

theorem beginsLine_ended {atStart : Bool} (s : String) : BeginsLine atStart (ended s) := by
  unfold ended
  split
  · next hbreak =>
    rw [List.append_nil, beginsLine_iff]
    · exact hbreak
    · intro hnil
      simp [hnil] at hbreak
  · rw [beginsLine_iff (by simp)]
    simp [isBreak]

theorem blockText_go_cons {atStart : Bool} : blockText.go indent atStart (c :: cs)
    = (if isBreak c then [] else lead indent atStart)
        ++ c :: blockText.go indent (isBreak c) cs := by
  rw [blockText.go]
  cases hc : isBreak c with
  | true => rfl
  | false => simp [lead, toList_margin]

/-- The lines of a block are indented, or begin with a line break. -/
theorem Outdented.ne_blockText_go (h : Outdented indent rest) (d : Char) (ds : List Char) :
    [] ++ rest ≠ blockText.go indent true (d :: ds) ++ rest' := by
  rw [List.nil_append, blockText_go_cons, List.append_assoc]
  cases hd : isBreak d with
  | true => exact h.ne_break hd
  | false => exact h.ne_replicate

/-- By induction on the first text; where it ends, a line begins, which the other would indent. -/
theorem blockText_go_inj {atStart : Bool} (hrest : Outdented indent rest)
    (hrest' : Outdented indent rest') (hcs : BeginsLine atStart cs) (hds : BeginsLine atStart ds)
    (h : blockText.go indent atStart cs ++ rest = blockText.go indent atStart ds ++ rest') :
    cs = ds ∧ rest = rest' := by
  induction cs generalizing atStart ds with
  | nil =>
      cases ds with
      | nil => exact ⟨rfl, h⟩
      | cons d ds =>
          obtain rfl : atStart = true := hcs
          exact absurd h (hrest.ne_blockText_go d ds)
  | cons c cs ih =>
      cases ds with
      | nil =>
          obtain rfl : atStart = true := hds
          exact absurd h.symm (hrest'.ne_blockText_go c cs)
      | cons d ds =>
          rw [blockText_go_cons, blockText_go_cons, List.append_assoc, List.append_assoc] at h
          have hbreaks : isBreak c = isBreak d := by
            cases hc : isBreak c <;> cases hd : isBreak d <;> simp only [hc, hd] at h
            · rfl
            · exact absurd (not_isBreak_of_lead hc h) (by simp [hd])
            · exact absurd (not_isBreak_of_lead hd h.symm) (by simp [hc])
            · rfl
          rw [hbreaks] at h
          obtain ⟨rfl, htail⟩ := List.cons.inj (List.append_cancel_left h)
          obtain ⟨rfl, hsame⟩ := ih hcs hds htail
          exact ⟨rfl, hsame⟩

/-- The signs behind the bar of a block. -/
def blockSigns (s : String) : List Char :=
  (if s.toList.head?.any (fun c => isBlankChar c || isBreak c) then ['2'] else [])
    ++ (endSign s).toList

theorem endSign_eq_iff : endSign s = "-" ↔ s.toList.getLast?.any isBreak = false := by
  rw [List.getLast?_eq_head?_reverse]
  unfold endSign
  split
  · simp_all
  · split <;> simp_all
  · split_ifs <;> simp_all

theorem endSign_cases (s : String) : endSign s = "-" ∨ endSign s = "+" ∨ endSign s = "" := by
  unfold endSign
  split <;> [skip; split; split_ifs] <;> simp

theorem mem_blockSigns_iff : '-' ∈ blockSigns s ↔ s.toList.getLast?.any isBreak = false := by
  rw [← endSign_eq_iff, blockSigns]
  obtain h | h | h := endSign_cases s <;> rw [h] <;> split <;> simp

theorem isBare_blockSigns (s : String) : IsBare (blockSigns s) := by
  unfold blockSigns
  obtain h | h | h := endSign_cases s <;> rw [h] <;> split <;> simp [IsBare, isBreak]

theorem toList_blockText (indent : Nat) (s : String) : (blockText indent s).toList
    = '|' :: (blockSigns s ++ '\n' :: blockText.go indent true s.toList) := by
  rw [blockText, blockSigns]
  split_ifs <;> simp

theorem getLast?_blockText_go {atStart : Bool} :
    (blockText.go indent atStart cs).getLast? = cs.getLast? := by
  induction cs generalizing atStart with
  | nil => rfl
  | cons c cs ih =>
      rw [blockText_go_cons, List.getLast?_append, List.getLast?_cons, List.getLast?_cons, ih]
      rfl

theorem blockText_go_concat {atStart : Bool} (hc : isBreak c = true) :
    blockText.go indent atStart (cs ++ [c]) = blockText.go indent atStart cs ++ [c] := by
  induction cs generalizing atStart with
  | nil => rw [List.nil_append, blockText_go_cons, if_pos hc]; rfl
  | cons d ds ih =>
      rw [List.cons_append, blockText_go_cons, ih, blockText_go_cons, List.append_assoc]
      rfl

/-- The end of the last line of a block is that of the last line of its text. -/
theorem ended_blockText (indent : Nat) (s : String) (hs : s ≠ "") : ended (blockText indent s)
    = '|' :: (blockSigns s ++ '\n' :: blockText.go indent true (ended s)) := by
  have hlast : (blockText indent s).toList.getLast? = s.toList.getLast? := by
    obtain ⟨last, hlast⟩ := Option.isSome_iff_exists.1
      (List.getLast?_isSome.2 (fun h => hs (String.toList_inj.1 h)))
    simp [toList_blockText, List.getLast?_cons, List.getLast?_append, getLast?_blockText_go, hlast]
  rw [ended, ended, hlast, toList_blockText]
  split
  · simp
  · rw [blockText_go_concat rfl]
    simp

theorem blockText_append_inj (hs : s ≠ "") (ht : t ≠ "") (hrest : Outdented indent rest)
    (hrest' : Outdented indent rest')
    (h : ended (blockText indent s) ++ rest = ended (blockText indent t) ++ rest') :
    s = t ∧ rest = rest' := by
  rw [ended_blockText _ _ hs, ended_blockText _ _ ht] at h
  simp only [List.cons_append, List.append_assoc] at h
  obtain ⟨hsigns, htail⟩ := (isBare_blockSigns s).append_inj (isBare_blockSigns t) (.line rfl)
    (.line rfl) (List.cons.inj h).2
  obtain ⟨hended, hrests⟩ := blockText_go_inj hrest hrest' (beginsLine_ended s) (beginsLine_ended t)
    (List.cons.inj htail).2
  refine ⟨String.toList_inj.1 ?_, hrests⟩
  -- The signs tell whether the last line has an end of its own.
  have hends : s.toList.getLast?.any isBreak = t.toList.getLast?.any isBreak := by
    rw [Bool.eq_iff_iff, ← not_iff_not, Bool.not_eq_true, Bool.not_eq_true, ← mem_blockSigns_iff,
      ← mem_blockSigns_iff, hsigns]
  rw [ended, ended, hends] at hended
  exact List.append_cancel_right hended

/-! ## Texts -/

theorem IsBare.isBreak_eq_false (h : IsBare cs) : ∀ c ∈ cs, isBreak c = false := by
  induction cs with
  | nil => simp
  | cons c cs ih => exact List.forall_mem_cons.2 ⟨h.1, ih h.2.2⟩

theorem IsBare.ended (h : IsBare s.toList) : ended s = s.toList ++ ['\n'] := by
  rw [Yaml.ended, if_neg]
  rw [Option.any_eq_true]
  rintro ⟨c, hc, hbreak⟩
  simp [h.isBreak_eq_false c (List.mem_of_getLast? hc)] at hbreak

theorem ended_of_getLast? (h : s.toList.getLast? = some c) (hc : isBreak c = false) :
    ended s = s.toList ++ ['\n'] := by
  simp [ended, h, hc]

/-- A scalar on a line has no end of a line. -/
theorem ended_textAt (h : TextForm.of s ≠ .block) :
    ended (textAt indent s) = (textAt indent s).toList ++ ['\n'] := by
  unfold textAt
  cases hform : TextForm.of s with
  | plain =>
      obtain ⟨-, hbare, -⟩ := plain_spec hform
      exact hbare.ended
  | single =>
      refine ended_of_getLast? (c := '\'') ?_ rfl
      rw [toList_singleQuoted, ← List.cons_append, List.getLast?_concat]
  | double =>
      refine ended_of_getLast? (c := '"') ?_ rfl
      rw [toList_doubleQuoted, ← List.cons_append, List.getLast?_concat]
  | block => exact absurd hform h

theorem ne_empty_of_block (h : TextForm.of s = .block) : s ≠ "" := by
  rintro rfl
  exact absurd h (by decide)

/-- A text at an indentation is told from every other one, whatever stands behind them. -/
theorem text_append_inj (hrest : Outdented indent rest) (hrest' : Outdented indent rest')
    (h : ended (textAt indent s) ++ rest = ended (textAt indent t) ++ rest') :
    s = t ∧ rest = rest' := by
  have hform : TextForm.of s = TextForm.of t := by
    have hstart := congrArg Start.of h
    rw [ended, ended, List.append_assoc, List.append_assoc, start_textAt, start_textAt] at hstart
    exact TextForm.start_inj hstart
  by_cases hblock : TextForm.of s = .block
  · have hblock' := hform.symm.trans hblock
    simp only [textAt, hblock, hblock'] at h
    exact blockText_append_inj (ne_empty_of_block hblock) (ne_empty_of_block hblock') hrest hrest' h
  · rw [ended_textAt hblock, ended_textAt (hform ▸ hblock), List.append_assoc,
      List.append_assoc] at h
    obtain ⟨hsame, htail⟩ := textAt_append_inj hblock (.line rfl) (.line rfl) h
    exact ⟨hsame, (List.cons.inj htail).2⟩

end

end Ferry.Yaml
