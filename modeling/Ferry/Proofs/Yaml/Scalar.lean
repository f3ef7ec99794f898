import Ferry.Proofs.Text.Hex
import Ferry.Yaml.Outline

set_option autoImplicit false

/-! # Scalars on a line

A scalar that is written on one line is told from every other one by how it is written, whatever
stands behind it, as long as that looks like the end of a scalar: the end of the line, or a colon
that ends a key (`OnLine.append_inj`). Between single quotes a text may have line breaks of its own,
behind which it goes on at an indentation; then both scalars are to be at the same one. -/

namespace Ferry.Yaml

/-! ## Plain texts -/

/-- What stands behind a scalar: the end of the line, or a colon with a blank or the end of the line
    behind it. -/
inductive Stops : List Char → Prop
  | line {c : Char} {rest : List Char} (h : isBreak c) : Stops (c :: rest)
  | colon {c : Char} {rest : List Char} (h : isSpace c || isBreak c) : Stops (':' :: c :: rest)

/-- Nothing in the text looks like the end of it. -/
def IsBare : List Char → Prop
  | [] => True
  | c :: rest => isBreak c = false ∧ (c = ':' → beginsBlank rest = false) ∧ IsBare rest

section
variable {indent : Nat} {s t : String} {c d : Char} {cs ds rest rest' : List Char}

theorem IsBare.not_stops (h : IsBare (c :: cs)) : ¬ Stops (c :: (cs ++ rest)) := by
  obtain ⟨hbreak, hcolon, -⟩ := h
  generalize htext : c :: (cs ++ rest) = text
  intro hstops
  cases hstops with
  | line hline =>
      obtain ⟨rfl, -⟩ := List.cons.inj htext
      simp [hbreak] at hline
  | colon hblank =>
      obtain ⟨rfl, htail⟩ := List.cons.inj htext
      have hbegins := hcolon rfl
      cases cs with
      | nil => cases hbegins
      | cons d cs =>
          obtain ⟨rfl, -⟩ := List.cons.inj htail
          simp only [beginsBlank] at hbegins
          simp [hbegins] at hblank

theorem IsBare.append_inj (hcs : IsBare cs) (hds : IsBare ds) (hrest : Stops rest)
    (hrest' : Stops rest') (h : cs ++ rest = ds ++ rest') : cs = ds ∧ rest = rest' := by
  induction cs generalizing ds with
  | nil =>
      cases ds with
      | nil => exact ⟨rfl, h⟩
      | cons d ds =>
          rw [List.nil_append] at h
          exact absurd (h ▸ hrest) hds.not_stops
  | cons c cs ih =>
      cases ds with
      | nil =>
          rw [List.nil_append] at h
          exact absurd (h ▸ hrest') hcs.not_stops
      | cons d ds =>
          obtain ⟨rfl, htail⟩ := List.cons.inj h
          obtain ⟨rfl, hsame⟩ := ih hcs.2.2 hds.2.2 htail
          exact ⟨rfl, hsame⟩

/-- A text without the signs that mean something behind its first character. -/
theorem isBare_of_hasMark {previous : Char} (hbreak : ∀ c ∈ cs, isBreak c = false)
    (h : hasMark previous cs = false) : IsBare cs := by
  induction cs generalizing previous with
  | nil => trivial
  | cons c cs ih =>
      simp only [hasMark, Bool.or_eq_false_iff] at h
      obtain ⟨⟨hcolon, -⟩, hmore⟩ := h
      obtain ⟨hc, hcs⟩ := List.forall_mem_cons.1 hbreak
      refine ⟨hc, ?_, ih hcs hmore⟩
      rintro rfl
      simpa using hcolon

/-- How a text begins that is written plain. -/
structure BeginsPlain (c : Char) (rest : List Char) : Prop where
  indicator : isIndicator c = false
  blank : c ≠ ' '
  mark : ['?', ':', '-'].contains c = true → beginsBlank rest = false

/-- What is known of a text that is written plain. -/
theorem plain_spec (h : TextForm.of s = .plain) : readsAsText s = true ∧ IsBare s.toList ∧
    ∃ c rest, s.toList = c :: rest ∧ BeginsPlain c rest := by
  unfold TextForm.of at h
  dsimp only at h
  split at h
  · split at h <;> cases h
  split at h
  case isFalse => split at h <;> cases h
  next hplain =>
  simp only [Bool.and_eq_true, Bool.not_eq_true', TextShape.of] at hplain
  obtain ⟨⟨⟨⟨⟨htext, -⟩, -⟩, hbreak⟩, hedge⟩, hindicator⟩ := hplain
  cases hchars : s.toList with
  | nil =>
      obtain rfl : s = "" := String.toList_inj.1 (by rw [hchars]; rfl)
      exact absurd htext (by decide)
  | cons c rest =>
      rw [hchars] at hbreak hedge hindicator
      simp only [List.head?_cons, Option.any_some, Bool.or_eq_false_iff, List.tail_cons,
        beginsIndicator, isBlankChar] at hedge hindicator
      have hbreaks : ∀ x ∈ c :: rest, isBreak x = false := by simpa using hbreak
      obtain ⟨⟨-, hsign, hmark⟩, hmarks⟩ := hindicator
      have hbegins : ['?', ':', '-'].contains c = true → beginsBlank rest = false := by
        intro hc
        rwa [hc, Bool.true_and] at hmark
      refine ⟨htext, ⟨(List.forall_mem_cons.1 hbreaks).1, ?_,
        isBare_of_hasMark (List.forall_mem_cons.1 hbreaks).2 hmarks⟩, c, rest, rfl, hsign, ?_,
        hbegins⟩
      · rintro rfl
        exact hbegins rfl
      · simpa using hedge.1.1

/-! ## Texts between single quotes -/

theorem toList_margin (n : Nat) : (margin n).toList = List.replicate n ' ' := String.toList_ofList

theorem toList_singleQuoted (indent : Nat) (s : String) : (singleQuoted indent s).toList
    = '\'' :: (singleQuoted.go indent false s.toList ++ ['\'']) := by
  simp [singleQuoted]

/-- What stands in front of a line that goes on. -/
def lead (indent : Nat) (behindBreak : Bool) : List Char :=
  if behindBreak then List.replicate indent ' ' else []

/-- A character between single quotes. -/
def doubledChar (c : Char) : List Char := if c = '\'' then ['\'', '\''] else [c]

theorem singleQuoted_go_nil (behindBreak : Bool) :
    singleQuoted.go indent behindBreak [] = lead indent behindBreak := by
  rw [singleQuoted.go, lead, toList_margin]

theorem singleQuoted_go_of_break (behindBreak : Bool) (hc : isBreak c = true) :
    singleQuoted.go indent behindBreak (c :: cs) = c :: singleQuoted.go indent true cs := by
  rw [singleQuoted.go, if_pos hc]

theorem singleQuoted_go_of_not_break (behindBreak : Bool) (hc : isBreak c = false) :
    singleQuoted.go indent behindBreak (c :: cs)
      = lead indent behindBreak ++ (doubledChar c ++ singleQuoted.go indent false cs) := by
  rw [singleQuoted.go, hc, lead, toList_margin, List.append_assoc]
  rfl

/-- A line that goes on without a line break begins with a blank, or as it goes on. -/
theorem not_isBreak_of_lead {behindBreak : Bool} (hd : isBreak d = false)
    (h : lead indent behindBreak ++ d :: ds = c :: rest) : isBreak c = false := by
  unfold lead at h
  split at h
  · cases indent with
    | zero =>
        obtain ⟨rfl, -⟩ := List.cons.inj h
        exact hd
    | succ n =>
        obtain ⟨rfl, -⟩ := List.cons.inj h
        rfl
  · obtain ⟨rfl, -⟩ := List.cons.inj h
    exact hd

theorem exists_doubledChar (hc : isBreak c = false) :
    ∃ d more, doubledChar c = d :: more ∧ isBreak d = false := by
  unfold doubledChar
  split
  · exact ⟨_, _, rfl, rfl⟩
  · exact ⟨_, _, rfl, hc⟩

/-- The quote that ends a text is not doubled. -/
theorem quote_ne_doubledChar {more : List Char} (hrest : rest.head? ≠ some '\'') :
    '\'' :: rest ≠ doubledChar c ++ more := by
  unfold doubledChar
  intro h
  split at h
  · obtain ⟨-, hmore⟩ := List.cons.inj h
    exact hrest (by rw [hmore]; rfl)
  · next hc => exact hc (List.cons.inj h).1.symm

theorem doubledChar_append_inj (h : doubledChar c ++ rest = doubledChar d ++ rest') :
    c = d ∧ rest = rest' := by
  unfold doubledChar at h
  split at h <;> split at h
  · next hc hd => exact ⟨hc.trans hd.symm, by simpa using h⟩
  · next hd => exact absurd (List.cons.inj h).1.symm hd
  · next hc _ => exact absurd (List.cons.inj h).1 hc
  · simpa using h

/-- Where the text ends, the quote behind it is no part of a text that goes on. -/
theorem singleQuoted_end_ne {behindBreak : Bool} (hrest : rest.head? ≠ some '\'') :
    lead indent behindBreak ++ '\'' :: rest
      ≠ singleQuoted.go indent behindBreak (c :: cs) ++ '\'' :: rest' := by
  intro h
  cases hc : isBreak c with
  | true =>
      rw [singleQuoted_go_of_break _ hc, List.cons_append] at h
      have hquote := not_isBreak_of_lead rfl h
      simp [hc] at hquote
  | false =>
      rw [singleQuoted_go_of_not_break _ hc, List.append_assoc, List.append_assoc] at h
      exact quote_ne_doubledChar hrest (List.append_cancel_left h)

/-- A line break is no part of a line that goes on. -/
theorem singleQuoted_break_ne {behindBreak : Bool} (hc : isBreak c = true)
    (hd : isBreak d = false) :
    singleQuoted.go indent behindBreak (c :: cs) ++ rest
      ≠ singleQuoted.go indent behindBreak (d :: ds) ++ rest' := by
  obtain ⟨x, more, hdoubled, hx⟩ := exists_doubledChar hd
  rw [singleQuoted_go_of_break _ hc, singleQuoted_go_of_not_break _ hd, hdoubled]
  simp only [List.cons_append, List.append_assoc]
  intro h
  have hblank := not_isBreak_of_lead hx h.symm
  simp [hc] at hblank

/-- By induction on the first text; where one of the texts ends, the other would have to go on with
    a quote that is not doubled. -/
theorem singleQuoted_go_inj {behindBreak : Bool} (hrest : rest.head? ≠ some '\'')
    (hrest' : rest'.head? ≠ some '\'')
    (h : singleQuoted.go indent behindBreak cs ++ '\'' :: rest
      = singleQuoted.go indent behindBreak ds ++ '\'' :: rest') : cs = ds ∧ rest = rest' := by
  induction cs generalizing behindBreak ds with
  | nil =>
      cases ds with
      | nil => exact ⟨rfl, (List.cons.inj (List.append_cancel_left h)).2⟩
      | cons d ds =>
          rw [singleQuoted_go_nil] at h
          exact absurd h (singleQuoted_end_ne hrest)
  | cons c cs ih =>
      cases ds with
      | nil =>
          rw [singleQuoted_go_nil] at h
          exact absurd h.symm (singleQuoted_end_ne hrest')
      | cons d ds =>
          cases hc : isBreak c <;> cases hd : isBreak d
          · rw [singleQuoted_go_of_not_break _ hc, singleQuoted_go_of_not_break _ hd] at h
            simp only [List.append_assoc] at h
            obtain ⟨rfl, htail⟩ := doubledChar_append_inj (List.append_cancel_left h)
            obtain ⟨rfl, hsame⟩ := ih htail
            exact ⟨rfl, hsame⟩
          · exact absurd h.symm (singleQuoted_break_ne hd hc)
          · exact absurd h (singleQuoted_break_ne hc hd)
          · rw [singleQuoted_go_of_break _ hc, singleQuoted_go_of_break _ hd] at h
            obtain ⟨rfl, htail⟩ := List.cons.inj h
            obtain ⟨rfl, hsame⟩ := ih htail
            exact ⟨rfl, hsame⟩

/-! ## Texts between double quotes -/

theorem toList_doubleQuoted (s : String) :
    (doubleQuoted s).toList = '"' :: (s.toList.flatMap doubleChar ++ ['"']) := by
  simp [doubleQuoted]

/-- The character that a letter behind a backslash stands for. -/
def escaped (letter : Char) : Char :=
  if letter = '0' then '\x00'
  else if letter = 'a' then '\x07'
  else if letter = 'b' then '\x08'
  else if letter = 't' then '\t'
  else if letter = 'n' then '\n'
  else if letter = 'v' then '\x0b'
  else if letter = 'f' then '\x0c'
  else if letter = 'r' then '\r'
  else if letter = 'e' then '\x1b'
  else if letter = 'N' then '\u0085'
  else if letter = '_' then '\u00a0'
  else if letter = 'L' then '\u2028'
  else if letter = 'P' then '\u2029'
  else letter

/-- The letters of codes, with the number of their digits. -/
def codeWidth (letter : Char) : Nat :=
  if letter = 'x' then 2 else if letter = 'u' then 4 else if letter = 'U' then 8 else 0

theorem escaped_of_escapeLetter? (h : escapeLetter? c = some d) :
    escaped d = c ∧ codeWidth d = 0 := by
  unfold escapeLetter? at h
  split at h <;> cases h <;> exact ⟨by decide, by decide⟩

/-- What is known of a character behind a backslash and a letter: the letter stands for it, or it
    has a code of so many digits. -/
def Escapes (letter c : Char) : Prop :=
  if codeWidth letter = 0 then escaped letter = c else c.toNat < 16 ^ codeWidth letter

/-- What stands behind a backslash and a letter. -/
def codeDigits (letter c : Char) : List Char :=
  (Text.hexDigits (codeWidth letter) c.toNat).map Char.toUpper

theorem codeEscape_eq (c : Char) :
    ∃ letter, Escapes letter c ∧ codeEscape c = '\\' :: letter :: codeDigits letter c := by
  have hmax : c.toNat < 16 ^ 8 := c.val.toNat_lt
  unfold codeEscape
  dsimp only
  split_ifs with hsmall hmiddle
  · exact ⟨'x', Nat.lt_succ_of_le hsmall, rfl⟩
  · exact ⟨'u', Nat.lt_succ_of_le hmiddle, rfl⟩
  · exact ⟨'U', hmax, rfl⟩

/-- A character stands for itself, or behind a backslash. -/
theorem doubleChar_cases (c : Char) : (doubleChar c = [c] ∧ c ≠ '"' ∧ c ≠ '\\') ∨
    ∃ letter, Escapes letter c ∧ doubleChar c = '\\' :: letter :: codeDigits letter c := by
  unfold doubleChar
  split
  · next hplain =>
    simp only [Bool.and_eq_true, bne_iff_ne, ne_eq] at hplain
    exact .inl ⟨rfl, hplain.1.2, hplain.2⟩
  right
  split
  · next letter hletter =>
    obtain ⟨hc, hwidth⟩ := escaped_of_escapeLetter? hletter
    refine ⟨letter, ?_, ?_⟩
    · rwa [Escapes, if_pos hwidth]
    · rw [codeDigits, hwidth]
      rfl
  · exact codeEscape_eq c

/-- The quote that ends a text stands behind no backslash. -/
theorem quote_ne_doubleChar {more : List Char} : '"' :: rest ≠ doubleChar c ++ more := by
  intro h
  obtain ⟨hself, hquote, -⟩ | ⟨letter, -, hcode⟩ := doubleChar_cases c
  · rw [hself] at h
    exact hquote (List.cons.inj h).1.symm
  · rw [hcode] at h
    exact absurd (List.cons.inj h).1 (by decide)

theorem code_append_inj {letter : Char} (hc : Escapes letter c) (hd : Escapes letter d)
    (h : codeDigits letter c ++ rest = codeDigits letter d ++ rest') : c = d ∧ rest = rest' := by
  have hlength : (codeDigits letter c).length = (codeDigits letter d).length := by
    simp [codeDigits, Text.length_hexDigits]
  obtain ⟨hdigits, hrest⟩ := List.append_inj h hlength
  refine ⟨?_, hrest⟩
  unfold Escapes at hc hd
  split at hc
  · next hwidth =>
    rw [if_pos hwidth] at hd
    exact hc.symm.trans hd
  · next hwidth =>
    rw [if_neg hwidth] at hd
    exact Char.toNat_inj.1 (Text.upperDigits_inj hc hd hdigits)

theorem doubleChar_append_inj (h : doubleChar c ++ rest = doubleChar d ++ rest') :
    c = d ∧ rest = rest' := by
  obtain ⟨hc, -, hslash⟩ | ⟨letter, hletter, hc⟩ := doubleChar_cases c <;>
    obtain ⟨hd, -, hslash'⟩ | ⟨letter', hletter', hd⟩ := doubleChar_cases d <;>
    rw [hc, hd] at h
  · exact List.cons.inj h
  · exact absurd (List.cons.inj h).1 hslash
  · exact absurd (List.cons.inj h).1.symm hslash'
  · obtain ⟨rfl, htail⟩ := List.cons.inj (List.cons.inj h).2
    exact code_append_inj hletter hletter' htail

theorem doubleQuoted_inj (h : cs.flatMap doubleChar ++ '"' :: rest
    = ds.flatMap doubleChar ++ '"' :: rest') : cs = ds ∧ rest = rest' := by
  induction cs generalizing ds with
  | nil =>
      cases ds with
      | nil => exact ⟨rfl, (List.cons.inj h).2⟩
      | cons d ds =>
          rw [List.flatMap_cons, List.append_assoc] at h
          exact absurd h quote_ne_doubleChar
  | cons c cs ih =>
      rw [List.flatMap_cons, List.append_assoc] at h
      cases ds with
      | nil => exact absurd h.symm quote_ne_doubleChar
      | cons d ds =>
          rw [List.flatMap_cons, List.append_assoc] at h
          obtain ⟨rfl, htail⟩ := doubleChar_append_inj h
          obtain ⟨rfl, hsame⟩ := ih htail
          exact ⟨rfl, hsame⟩

/-! ## How a scalar begins -/

/-- What is told by the first characters of what is written. -/
inductive Start
  | bare
  | single
  | double
  | block
  | noItems
  | noFields
  | item
  | longKey
deriving DecidableEq

/-- The start of a text. -/
def Start.of : List Char → Start
  | '\'' :: _ => .single
  | '"' :: _ => .double
  | '|' :: _ => .block
  | '[' :: _ => .noItems
  | '\x7b' :: _ => .noFields
  | '-' :: ' ' :: _ => .item
  | '?' :: ' ' :: _ => .longKey
  | _ => .bare

/-- How a text of a form begins. -/
def TextForm.start : TextForm → Start
  | .plain => .bare
  | .single => .single
  | .double => .double
  | .block => .block

theorem TextForm.start_inj {a b : TextForm} (h : a.start = b.start) : a = b := by
  cases a <;> cases b <;> first | rfl | cases h

theorem BeginsPlain.start (h : BeginsPlain c cs) : Start.of (c :: (cs ++ rest)) = .bare := by
  obtain ⟨hindicator, -, hmark⟩ := h
  generalize htext : c :: (cs ++ rest) = text
  -- Each sign that begins something else is an indicator, or has a blank behind it.
  unfold Start.of
  split
  all_goals try rfl
  all_goals obtain ⟨rfl, htail⟩ := List.cons.inj htext
  all_goals try exact absurd hindicator (by decide)
  all_goals
    have hbegins := hmark rfl
    cases cs with
    | nil => cases hbegins
    | cons d ds =>
        obtain ⟨rfl, -⟩ := List.cons.inj htail
        cases hbegins

theorem start_textAt (indent : Nat) (s : String) (rest : List Char) :
    Start.of ((textAt indent s).toList ++ rest) = (TextForm.of s).start := by
  unfold textAt
  cases hform : TextForm.of s with
  | plain =>
      obtain ⟨-, -, c, cs, hs, hbegins⟩ := plain_spec hform
      simp only [hs, List.cons_append]
      exact hbegins.start
  | single => rw [toList_singleQuoted]; rfl
  | double => rw [toList_doubleQuoted]; rfl
  | block => simp [blockText]; rfl

/-! ## Scalars on a line -/

/-- A word that is no text. -/
structure IsWord (t : String) : Prop where
  ne_empty : t ≠ ""
  letters : t.toList.all Char.isAlphanum = true
  means : readsAsText t = false

theorem IsWord.isBare {t : String} (h : IsWord t) : IsBare t.toList := by
  have hletters := List.all_eq_true.1 h.letters
  generalize t.toList = cs at hletters
  induction cs with
  | nil => trivial
  | cons c cs ih =>
      obtain ⟨hc, hcs⟩ := List.forall_mem_cons.1 hletters
      refine ⟨?_, ?_, ih hcs⟩
      · by_contra hbreak
        simp only [isBreak, Bool.not_eq_false, Bool.or_eq_true, beq_iff_eq] at hbreak
        rcases hbreak with (((rfl | rfl) | rfl) | rfl) | rfl <;> exact absurd hc (by decide)
      · rintro rfl
        exact absurd hc (by decide)

theorem IsWord.begins {t : String} (h : IsWord t) :
    ∃ c cs, t.toList = c :: cs ∧ BeginsPlain c cs := by
  cases ht : t.toList with
  | nil => exact absurd (String.toList_inj.1 ht) h.ne_empty
  | cons c cs =>
      have hc : c.isAlphanum := List.all_eq_true.1 h.letters c (by simp [ht])
      have hindicator : isIndicator c = false := by
        by_contra hmem
        simp only [Bool.not_eq_false, isIndicator, List.contains_iff_mem] at hmem
        have hnone : "#,[]\x7b\x7d&*!|>'\"%@\x60".toList.all (!Char.isAlphanum ·) = true := by
          decide
        simpa [hc] using List.all_eq_true.1 hnone c hmem
      refine ⟨c, cs, rfl, hindicator, ?_, fun hmark => ?_⟩
      · rintro rfl
        exact absurd hc (by decide)
      · have hnone : ['?', ':', '-'].all (!Char.isAlphanum ·) = true := by decide
        simpa [hc] using List.all_eq_true.1 hnone c (List.contains_iff_mem.1 hmark)

/-- A scalar that is written on one line, but for the line breaks between single quotes. -/
inductive OnLine : Outline → Prop
  | word {t : String} (h : IsWord t) : OnLine (.word t)
  | text {s : String} (h : TextForm.of s ≠ .block) : OnLine (.text s)

theorem Stops.head?_ne (h : Stops rest) : rest.head? ≠ some '\'' := by
  cases h with
  | line hbreak =>
      intro hquote
      obtain rfl := Option.some.inj hquote
      exact absurd hbreak (by decide)
  | colon _ => simp

theorem textAt_append_inj (hs : TextForm.of s ≠ .block) (hrest : Stops rest)
    (hrest' : Stops rest')
    (h : (textAt indent s).toList ++ rest = (textAt indent t).toList ++ rest') :
    s = t ∧ rest = rest' := by
  have hform : TextForm.of s = TextForm.of t := by
    have hstart := congrArg Start.of h
    rw [start_textAt, start_textAt] at hstart
    exact TextForm.start_inj hstart
  simp only [textAt, ← hform] at h
  cases hplain : TextForm.of s with
  | plain =>
      simp only [hplain] at h
      obtain ⟨-, hbare, -⟩ := plain_spec hplain
      obtain ⟨-, hbare', -⟩ := plain_spec (hform.symm.trans hplain)
      obtain ⟨hsame, hrests⟩ := hbare.append_inj hbare' hrest hrest' h
      exact ⟨String.toList_inj.1 hsame, hrests⟩
  | single =>
      simp only [hplain, toList_singleQuoted, List.cons_append, List.append_assoc, List.nil_append]
        at h
      obtain ⟨hsame, hrests⟩ :=
        singleQuoted_go_inj hrest.head?_ne hrest'.head?_ne (List.cons.inj h).2
      exact ⟨String.toList_inj.1 hsame, hrests⟩
  | double =>
      simp only [hplain, toList_doubleQuoted, List.cons_append, List.append_assoc, List.nil_append]
        at h
      obtain ⟨hsame, hrests⟩ := doubleQuoted_inj (List.cons.inj h).2
      exact ⟨String.toList_inj.1 hsame, hrests⟩
  | block => exact absurd hplain hs

/-- No text is written as a word: it would be in quotes. -/
theorem word_append_ne {w : String} (hw : IsWord w) (hrest : Stops rest) (hrest' : Stops rest') :
    w.toList ++ rest ≠ (textAt indent s).toList ++ rest' := by
  intro h
  have hplain : TextForm.of s = .plain := by
    have hstart := congrArg Start.of h
    obtain ⟨c, cs, hcs, hbegins⟩ := hw.begins
    rw [start_textAt, hcs, List.cons_append, hbegins.start] at hstart
    exact TextForm.start_inj hstart.symm
  obtain ⟨hmeans, hbare, -⟩ := plain_spec hplain
  simp only [textAt, hplain] at h
  obtain ⟨hsame, -⟩ := hw.isBare.append_inj hbare hrest hrest' h
  obtain rfl := String.toList_inj.1 hsame
  exact absurd hmeans (by simp [hw.means])

/-- A scalar on a line is told from every other one, whatever stands behind them. -/
theorem OnLine.append_inj {o o' : Outline} (ho : OnLine o) (ho' : OnLine o') (hrest : Stops rest)
    (hrest' : Stops rest')
    (h : (o.textAt indent).toList ++ rest = (o'.textAt indent).toList ++ rest') :
    o = o' ∧ rest = rest' := by
  cases ho with
  | word hw =>
      cases ho' with
      | word hw' =>
          simp only [Outline.textAt] at h
          obtain ⟨hsame, hrests⟩ := hw.isBare.append_inj hw'.isBare hrest hrest' h
          exact ⟨congrArg _ (String.toList_inj.1 hsame), hrests⟩
      | text _ =>
          simp only [Outline.textAt] at h
          exact absurd h (word_append_ne hw hrest hrest')
  | text hs =>
      cases ho' with
      | word hw' =>
          simp only [Outline.textAt] at h
          exact absurd h.symm (word_append_ne hw' hrest' hrest)
      | text _ =>
          simp only [Outline.textAt] at h
          obtain ⟨rfl, hrests⟩ := textAt_append_inj hs hrest hrest' h
          exact ⟨rfl, hrests⟩

/-! ## Keys on a line -/

theorem form_of_no_break (h : ∀ c ∈ s.toList, isBreak c = false) : TextForm.of s ≠ .block := by
  have hline : s.toList.contains '\n' = false := by
    by_contra hmem
    rw [Bool.not_eq_false, List.contains_iff_mem] at hmem
    exact absurd (h _ hmem) (by decide)
  unfold TextForm.of
  simp only [hline, Bool.false_eq_true, if_false]
  split_ifs <;> simp

theorem singleQuoted_go_of_no_break (m n : Nat) (h : ∀ c ∈ cs, isBreak c = false) :
    singleQuoted.go m false cs = singleQuoted.go n false cs := by
  induction cs with
  | nil => rfl
  | cons c cs ih =>
      obtain ⟨hc, hcs⟩ := List.forall_mem_cons.1 h
      rw [singleQuoted_go_of_not_break _ hc, singleQuoted_go_of_not_break _ hc, ih hcs]
      rfl

/-- A text without line breaks is written in the same way at every indentation. -/
theorem textAt_of_no_break (m n : Nat) (h : ∀ c ∈ s.toList, isBreak c = false) :
    textAt m s = textAt n s := by
  unfold textAt
  split
  · rfl
  · rw [singleQuoted, singleQuoted, singleQuoted_go_of_no_break m n h]
  · rfl
  · next hblock => exact absurd hblock (form_of_no_break h)

end

end Ferry.Yaml
