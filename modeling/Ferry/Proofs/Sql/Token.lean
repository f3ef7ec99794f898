import Ferry.Identifier

set_option autoImplicit false

/-! # Tokens of a statement

How a database cuts the text of a statement into tokens when a backslash in a string means itself. A
name stands between double quotes and a text between single quotes; inside either the quote is
written twice, and everything else is taken as it is. Outside of quotes there are words, numbers,
single symbols and the double colon of a cast.

The cutting is a machine that takes one character after the other: `Mode` is what it is in the
middle of. Whatever would need another rule is refused: comments, strings with a prefix, operators
of several characters, numbers that begin with a point, and names that cannot be used. Two texts on
two lines, which a database puts together, are two tokens here; no statement has them side by
side. -/

namespace Ferry.Sql

/-- A token; names and texts are without their quotes. -/
inductive Token
  | word (text : String)
  | name (text : String)
  | text (text : String)
  | number (text : String)
  | symbol (c : Char)
  /-- Two colons. -/
  | cast
deriving DecidableEq

/-! ## The machine -/

/-- What the machine is in the middle of, with the characters read so far. -/
inductive Mode
  | between
  | word (cs : List Char)
  /-- Digits. -/
  | whole (cs : List Char)
  /-- Digits and a point. -/
  | point (cs : List Char)
  /-- Digits, a point and digits. -/
  | fraction (cs : List Char)
  /-- A symbol that could be the first character of a longer token. -/
  | sign (c : Char)
  /-- One colon. -/
  | colon
  | cast
  /-- Inside of quotes, given the quote. -/
  | inside (quote : Char) (cs : List Char)
  /-- The quote inside of quotes: their end, or the first of two. -/
  | closing (quote : Char) (cs : List Char)

/-- A character that separates tokens and is none. -/
def isBlank (c : Char) : Bool := [' ', '\t', '\n', '\r', '\x0b', '\x0c'].contains c

/-- A character that a word can begin with. -/
def isLetter (c : Char) : Bool := c.isAlpha || c == '_'

/-- A character that is a token wherever it stands. -/
def isPunctuation (c : Char) : Bool := ['(', ')', ',', ';'].contains c

/-- A character that is a token unless another such character follows. -/
def isSign (c : Char) : Bool := ['-', '=', '.'].contains c

namespace Mode

/-- The token goes on with a character. -/
def next? : Mode → Char → Option Mode
  | word cs, c => if isLetter c || c.isDigit then some (word (cs ++ [c])) else none
  | whole cs, c =>
    if c.isDigit then some (whole (cs ++ [c]))
    else if c = '.' then some (point (cs ++ [c]))
    else none
  | point cs, c => if c.isDigit then some (fraction (cs ++ [c])) else none
  | fraction cs, c => if c.isDigit then some (fraction (cs ++ [c])) else none
  | colon, c => if c = ':' then some cast else none
  | inside quote cs, c => some (if c = quote then closing quote cs else inside quote (cs ++ [c]))
  | closing quote cs, c => if c = quote then some (inside quote (cs ++ [c])) else none
  | between, _ | sign _, _ | cast, _ => none

/-- The token when it is at its end; none if it cannot end here. -/
def finish : Mode → Option (List Token)
  | between => some []
  | word cs => some [.word (String.ofList cs)]
  | whole cs | fraction cs => some [.number (String.ofList cs)]
  | sign c => some [.symbol c]
  | cast => some [.cast]
  | closing quote cs =>
    if quote = '\'' then some [.text (String.ofList cs)]
    else if quote = '"' ∧ Identifier.issue? (String.ofList cs) = none then
      some [.name (String.ofList cs)]
    else none
  | point _ | colon | inside _ _ => none

/-- Characters that must not follow a token at once: a word before a single quote would be the
    prefix of a string, and two minus signs begin a comment. -/
def forbids : Mode → Char → Bool
  | word _, c => c == '\''
  | whole _, c | fraction _, c => isLetter c || c == '.'
  | sign first, c => isSign c || c.isDigit && first == '.'
  | _, _ => false

/-- A character between tokens. -/
def start (c : Char) : Option (List Token × Mode) :=
  if isLetter c then some ([], word [c])
  else if c.isDigit then some ([], whole [c])
  else if isBlank c then some ([], between)
  else if isPunctuation c then some ([.symbol c], between)
  else if isSign c then some ([], sign c)
  else if c = ':' then some ([], colon)
  else if c = '"' || c = '\'' then some ([], inside c [])
  else none

/-- Take a character: the tokens that end before it or with it, and the mode after it. -/
def step (m : Mode) (c : Char) : Option (List Token × Mode) :=
  match m.next? c with
  | some m' => some ([], m')
  | none =>
    if m.forbids c then none
    else
      match m.finish, start c with
      | some ts, some (us, m') => some (ts ++ us, m')
      | _, _ => none

/-- Take characters one by one. -/
def run : Mode → List Char → Option (List Token × Mode)
  | m, [] => some ([], m)
  | m, c :: rest =>
    match m.step c with
    | none => none
    | some (ts, m') =>
      match run m' rest with
      | none => none
      | some (us, m'') => some (ts ++ us, m'')

end Mode

/-- The tokens of some characters. -/
def tokens (cs : List Char) : Option (List Token) :=
  match Mode.between.run cs with
  | none => none
  | some (ts, m) => m.finish.map (ts ++ ·)

/-- Cut the text of a statement into tokens. -/
def tokenize (sql : String) : Option (List Token) := tokens sql.toList

/-! ## Runs -/

namespace Mode

variable {m m' m'' : Mode} {c : Char} {xs ys : List Char} {ts us : List Token}

theorem run_cons (hstep : m.step c = some (ts, m')) (hrest : m'.run xs = some (us, m'')) :
    m.run (c :: xs) = some (ts ++ us, m'') := by
  simp only [run, hstep, hrest]

theorem run_singleton (hstep : m.step c = some (ts, m')) : m.run [c] = some (ts, m') := by
  simp only [run, hstep, List.append_nil]

/-- A run of at least one character is a step and the run of the others. -/
theorem run_cons_iff : m.run (c :: xs) = some (ts, m'') ↔
    ∃ us m' vs, m.step c = some (us, m') ∧ m'.run xs = some (vs, m'') ∧ ts = us ++ vs := by
  constructor
  · intro h
    rw [run] at h
    cases hstep : m.step c with
    | none => simp only [hstep] at h; cases h
    | some first =>
        obtain ⟨us, m'⟩ := first
        cases hrest : m'.run xs with
        | none => simp only [hstep, hrest] at h; cases h
        | some last =>
            obtain ⟨vs, m₂⟩ := last
            simp only [hstep, hrest] at h
            cases h
            exact ⟨us, m', vs, rfl, hrest, rfl⟩
  · rintro ⟨us, m', vs, hstep, hrest, rfl⟩
    exact run_cons hstep hrest

theorem run_append (hxs : m.run xs = some (ts, m')) (hys : m'.run ys = some (us, m'')) :
    m.run (xs ++ ys) = some (ts ++ us, m'') := by
  induction xs generalizing m ts with
  | nil =>
      cases hxs
      exact hys
  | cons c rest ih =>
      obtain ⟨vs, m₁, ws, hstep, hrest, rfl⟩ := run_cons_iff.1 hxs
      rw [List.append_assoc]
      exact run_cons hstep (ih hrest)

theorem step_of_next (h : m.next? c = some m') : m.step c = some ([], m') := by
  simp only [step, h]

theorem step_of_finish (hnext : m.next? c = none) (hforbids : m.forbids c = false)
    (hfinish : m.finish = some ts) (hstart : start c = some (us, m')) :
    m.step c = some (ts ++ us, m') := by
  simp only [step, hnext, hforbids, hfinish, hstart, Bool.false_eq_true, if_false]

theorem step_between (c : Char) : between.step c = start c := by
  cases hstart : start c <;> simp [step, next?, forbids, finish, hstart]

/-- Characters with which a token goes on are taken into it. -/
theorem run_while (f : List Char → Mode) (cs : List Char)
    (h : ∀ c ∈ xs, ∀ cs, (f cs).next? c = some (f (cs ++ [c]))) :
    (f cs).run xs = some ([], f (cs ++ xs)) := by
  induction xs generalizing cs with
  | nil => rw [List.append_nil, run]
  | cons c rest ih =>
      have hstep := step_of_next (h c List.mem_cons_self cs)
      have hothers := ih (cs ++ [c]) (fun c' hc' => h c' (List.mem_cons_of_mem _ hc'))
      have hrest := run_cons hstep hothers
      rwa [List.append_assoc] at hrest

/-- Inside of quotes every text is read as it was before its quotes were doubled. -/
theorem run_doubled (quote : Char) (cs xs : List Char) :
    (inside quote cs).run (Identifier.doubled quote xs) = some ([], inside quote (cs ++ xs)) := by
  induction xs generalizing cs with
  | nil => rw [List.append_nil, Identifier.doubled, run]
  | cons x rest ih =>
      have hrest := ih (cs ++ [x])
      rw [List.append_assoc] at hrest
      by_cases hx : x = quote
      · -- The first of two quotes looks like the end, and the second goes back inside.
        subst hx
        have hfirst : (inside x cs).step x = some ([], closing x cs) :=
          step_of_next (congrArg some (if_pos rfl))
        have hsecond : (closing x cs).step x = some ([], inside x (cs ++ [x])) :=
          step_of_next (if_pos rfl)
        rw [Identifier.doubled, if_pos rfl]
        exact run_cons hfirst (run_cons hsecond hrest)
      · have hstep : (inside quote cs).step x = some ([], inside quote (cs ++ [x])) :=
          step_of_next (congrArg some (if_neg hx))
        rw [Identifier.doubled, if_neg hx]
        exact run_cons hstep hrest

theorem run_quoted {quote : Char} (hquote : quote = '"' ∨ quote = '\'') (xs : List Char) :
    between.run (quote :: Identifier.doubled quote xs ++ [quote])
      = some ([], closing quote xs) := by
  have hopen : between.step quote = some ([], inside quote []) := by
    rcases hquote with rfl | rfl <;> rfl
  have hclose : (inside quote xs).step quote = some ([], closing quote xs) :=
    step_of_next (congrArg some (if_pos rfl))
  exact run_append (run_cons hopen (run_doubled quote [] xs)) (run_singleton hclose)

end Mode

/-! ## Putting pieces together -/

section
variable {xs ys : List Char} {ts us vs : List Token} {m : Mode} {c : Char}

theorem tokens_of_run (hrun : Mode.between.run xs = some (ts, m)) (hfinish : m.finish = some us) :
    tokens xs = some (ts ++ us) := by
  simp only [tokens, hrun, hfinish, Option.map_some]

theorem run_of_tokens (h : tokens xs = some ts) :
    ∃ us m vs, Mode.between.run xs = some (us, m) ∧ m.finish = some vs ∧ ts = us ++ vs := by
  unfold tokens at h
  cases hrun : Mode.between.run xs with
  | none =>
      rw [hrun] at h
      cases h
  | some result =>
      obtain ⟨us, m⟩ := result
      rw [hrun] at h
      obtain ⟨vs, hfinish, hts⟩ := Option.map_eq_some_iff.1 h
      exact ⟨us, m, vs, rfl, hfinish, hts.symm⟩

theorem tokens_nil : tokens [] = some [] := rfl

/-- Two pieces are cut on their own if the last token of the first does not go on with the first
    character of the second. -/
theorem tokens_concat (hrun : Mode.between.run xs = some (ts, m)) (hfinish : m.finish = some us)
    (hnext : m.next? c = none) (hforbids : m.forbids c = false)
    (hys : tokens (c :: ys) = some vs) : tokens (xs ++ c :: ys) = some (ts ++ us ++ vs) := by
  obtain ⟨first, m', last, hrun', hfinish', rfl⟩ := run_of_tokens hys
  obtain ⟨ws, m₁, ws', hstep, hrest, rfl⟩ := Mode.run_cons_iff.1 hrun'
  rw [Mode.step_between] at hstep
  have hstep' := Mode.step_of_finish hnext hforbids hfinish hstep
  rw [tokens_of_run (Mode.run_append hrun (Mode.run_cons hstep' hrest)) hfinish']
  simp only [List.append_assoc]

/-- A character behind which a token is at its end, whichever it is. -/
inductive IsSeparator : Char → Prop
  | blank : IsSeparator ' '
  | comma : IsSeparator ','
  | opening : IsSeparator '('
  | closing : IsSeparator ')'

/-- The token that such a character is. -/
def separatorTokens (c : Char) : List Token := if c = ' ' then [] else [.symbol c]

theorem next?_separator (hc : IsSeparator c) (hfinish : m.finish = some ts) :
    m.next? c = none := by
  cases m with
  | closing quote cs =>
      refine if_neg (fun hquote => ?_)
      -- A name or a text that is at its end has another character for its quote.
      subst hquote
      cases hc <;> cases hfinish
  | point | colon | inside => cases hfinish
  | _ => cases hc <;> rfl

theorem forbids_separator (hc : IsSeparator c) (m : Mode) : m.forbids c = false := by
  cases hc <;> cases m <;> rfl

theorem tokens_separator (hc : IsSeparator c) (hys : tokens ys = some us) :
    tokens (c :: ys) = some (separatorTokens c ++ us) := by
  obtain ⟨first, m', last, hrun, hfinish, rfl⟩ := run_of_tokens hys
  have hstep : Mode.between.step c = some (separatorTokens c, .between) := by
    cases hc <;> rfl
  rw [tokens_of_run (Mode.run_cons hstep hrun) hfinish, List.append_assoc]

/-- Two pieces with a separator between them are cut on their own. -/
theorem tokens_append (hc : IsSeparator c) (hxs : tokens xs = some ts) (hys : tokens ys = some us) :
    tokens (xs ++ c :: ys) = some (ts ++ separatorTokens c ++ us) := by
  obtain ⟨first, m, last, hrun, hfinish, rfl⟩ := run_of_tokens hxs
  rw [tokens_concat hrun hfinish (next?_separator hc hfinish) (forbids_separator hc m)
    (tokens_separator hc hys)]
  simp only [List.append_assoc]

end

/-! ## Texts, names, words and numbers -/

/-- The text between quotes. -/
def quotedChars (quote : Char) (s : String) : List Char :=
  quote :: Identifier.doubled quote s.toList ++ [quote]

/-- A text that is a word. -/
def isWord (s : String) : Bool :=
  match s.toList with
  | [] => false
  | c :: rest => isLetter c && rest.all (fun d => isLetter d || d.isDigit)

/-- Digits, of which there is at least one. -/
def IsDigits (cs : List Char) : Prop := cs ≠ [] ∧ ∀ c ∈ cs, c.isDigit = true

/-- Digits, with or without a point between two of them. -/
def IsNumeral (s : String) : Prop :=
  IsDigits s.toList ∨
    ∃ whole part, IsDigits whole ∧ IsDigits part ∧ s.toList = whole ++ '.' :: part

section
variable {name table s w : String} {xs ys : List Char} {ts : List Token} {c : Char}

theorem run_text (s : String) :
    Mode.between.run (quotedChars '\'' s) = some ([], .closing '\'' s.toList) :=
  Mode.run_quoted (.inr rfl) s.toList

theorem run_name (name : String) :
    Mode.between.run (quotedChars '"' name) = some ([], .closing '"' name.toList) :=
  Mode.run_quoted (.inl rfl) name.toList

theorem finish_text (s : String) : (Mode.closing '\'' s.toList).finish = some [.text s] := by
  simp [Mode.finish]

theorem finish_name (h : Identifier.issue? name = none) :
    (Mode.closing '"' name.toList).finish = some [.name name] := by
  simp [Mode.finish, h]

theorem finish_word (w : String) : (Mode.word w.toList).finish = some [.word w] := by
  simp [Mode.finish]

/-- A text between quotes is one token, whatever is in it. -/
theorem tokens_text (s : String) : tokens (quotedChars '\'' s) = some [.text s] :=
  tokens_of_run (run_text s) (finish_text s)

example : tokenize "'it''s'" = some [.text "it's"] := by decide

/-- A usable name between quotes is one token, whatever is in it. -/
theorem tokens_name (h : Identifier.issue? name = none) :
    tokens (quotedChars '"' name) = some [.name name] :=
  tokens_of_run (run_name name) (finish_name h)

theorem run_word (h : isWord w = true) :
    Mode.between.run w.toList = some ([], .word w.toList) := by
  unfold isWord at h
  cases hw : w.toList with
  | nil => simp [hw] at h
  | cons c rest =>
      simp only [hw, Bool.and_eq_true, List.all_eq_true] at h
      have hstep : Mode.between.step c = some ([], .word [c]) :=
        (Mode.step_between c).trans (if_pos h.1)
      have hrest := Mode.run_while Mode.word [c] (fun d hd cs => if_pos (h.2 d hd))
      exact Mode.run_cons hstep hrest

theorem tokens_word (h : isWord w = true) : tokens w.toList = some [.word w] :=
  tokens_of_run (run_word h) (finish_word w)

/-- A word, a blank and what follows. -/
theorem tokens_word_blank (h : isWord w = true) (hxs : tokens xs = some ts) :
    tokens (w.toList ++ ' ' :: xs) = some (.word w :: ts) :=
  tokens_append .blank (tokens_word h) hxs

/-- A point and a name. -/
theorem tokens_point_name (h : Identifier.issue? name = none) :
    tokens ('.' :: quotedChars '"' name) = some [.symbol '.', .name name] := by
  have hrun : Mode.between.run ['.'] = some ([], .sign '.') := rfl
  exact tokens_concat hrun rfl rfl rfl (tokens_name h)

/-- Two names with a point between them. -/
theorem tokens_qualified (hname : Identifier.issue? name = none)
    (htable : Identifier.issue? table = none) :
    tokens (quotedChars '"' name ++ '.' :: quotedChars '"' table)
      = some [.name name, .symbol '.', .name table] :=
  tokens_concat (run_name name) (finish_name hname) rfl rfl (tokens_point_name htable)

/-- A word and a name with a point between them. -/
theorem tokens_word_name (hw : isWord w = true) (hname : Identifier.issue? name = none) :
    tokens (w.toList ++ '.' :: quotedChars '"' name)
      = some [.word w, .symbol '.', .name name] :=
  tokens_concat (run_word hw) (finish_word w) rfl rfl (tokens_point_name hname)

/-- A text that is read as a type. -/
theorem tokens_typed (s : String) (hw : isWord w = true) :
    tokens (quotedChars '\'' s ++ ':' :: ':' :: w.toList) = some [.text s, .cast, .word w] := by
  have hrun : Mode.between.run [':', ':'] = some ([], .cast) := rfl
  have htype : tokens (':' :: ':' :: w.toList) = some [.cast, .word w] := by
    cases hchars : w.toList with
    | nil => simp [isWord, hchars] at hw
    | cons c rest => exact tokens_concat hrun rfl rfl rfl (hchars ▸ tokens_word hw)
  exact tokens_concat (run_text s) (finish_text s) rfl rfl htype

theorem ne_of_isDigit {d : Char} (h : c.isDigit = true) (hd : d.isDigit = false) : c ≠ d := by
  rintro rfl
  rw [h] at hd
  cases hd

theorem isLetter_of_isDigit (h : c.isDigit = true) : isLetter c = false := by
  have hdigit : c.toNat ≤ 57 := (Char.isDigit_iff_toNat.1 h).2
  have halpha : ¬ c.isAlpha = true := by
    intro halpha
    rcases Bool.or_eq_true_iff.1 halpha with hupper | hlower
    · have hc : 65 ≤ c.toNat := UInt32.le_iff_toNat_le.1 (of_decide_eq_true hupper).1
      omega
    · have hfirst := (Bool.and_eq_true_iff.1 hlower).1
      have hc : 97 ≤ c.toNat := UInt32.le_iff_toNat_le.1 (of_decide_eq_true hfirst)
      omega
  have hline : c ≠ '_' := ne_of_isDigit h rfl
  simp [isLetter, hline, halpha]

theorem run_digits (h : IsDigits xs) : Mode.between.run xs = some ([], .whole xs) := by
  cases xs with
  | nil => exact absurd rfl h.1
  | cons c rest =>
      obtain ⟨hc, hrest⟩ := List.forall_mem_cons.1 h.2
      have hstep : Mode.between.step c = some ([], .whole [c]) := by
        rw [Mode.step_between, Mode.start, isLetter_of_isDigit hc, hc]
        rfl
      have hrun := Mode.run_while Mode.whole [c] (fun d hd cs => if_pos (hrest d hd))
      exact Mode.run_cons hstep hrun

theorem run_numeral (h : IsNumeral s) :
    ∃ m, Mode.between.run s.toList = some ([], m) ∧ m.finish = some [.number s] := by
  rcases h with hdigits | ⟨whole, part, hwhole, hpart, hs⟩
  · refine ⟨.whole s.toList, run_digits hdigits, ?_⟩
    simp [Mode.finish]
  · refine ⟨.fraction s.toList, ?_, by simp [Mode.finish]⟩
    cases part with
    | nil => exact absurd rfl hpart.1
    | cons c rest =>
        obtain ⟨hc, hrest⟩ := List.forall_mem_cons.1 hpart.2
        have hpoint : (Mode.whole whole).step '.' = some ([], .point (whole ++ ['.'])) :=
          Mode.step_of_next rfl
        have hfirst : (Mode.point (whole ++ ['.'])).step c
            = some ([], .fraction (whole ++ ['.'] ++ [c])) :=
          Mode.step_of_next (if_pos hc)
        have hothers := Mode.run_while Mode.fraction (whole ++ ['.'] ++ [c])
          (fun d hd cs => if_pos (hrest d hd))
        have hrun := Mode.run_append (run_digits hwhole)
          (Mode.run_cons hpoint (Mode.run_cons hfirst hothers))
        rw [hs]
        simpa only [List.append_assoc, List.cons_append, List.nil_append] using hrun

/-- A numeral is one token. -/
theorem tokens_numeral (h : IsNumeral s) : tokens s.toList = some [.number s] := by
  obtain ⟨m, hrun, hfinish⟩ := run_numeral h
  exact tokens_of_run hrun hfinish

theorem exists_digit_of_isNumeral (h : IsNumeral s) :
    ∃ c rest, s.toList = c :: rest ∧ c.isDigit = true := by
  have hdigits : ∀ cs, IsDigits cs → ∃ c rest, cs = c :: rest ∧ c.isDigit = true := by
    rintro (_ | ⟨c, rest⟩) hcs
    · exact absurd rfl hcs.1
    · exact ⟨c, rest, rfl, hcs.2 c List.mem_cons_self⟩
  rcases h with h | ⟨whole, part, hwhole, -, hs⟩
  · exact hdigits _ h
  · obtain ⟨c, rest, rfl, hc⟩ := hdigits _ hwhole
    exact ⟨c, _, hs, hc⟩

/-- A minus sign and a numeral. -/
theorem tokens_negative (h : IsNumeral s) :
    tokens ('-' :: s.toList) = some [.symbol '-', .number s] := by
  have hrun : Mode.between.run ['-'] = some ([], .sign '-') := rfl
  obtain ⟨c, rest, hs, hc⟩ := exists_digit_of_isNumeral h
  have hforbids : (Mode.sign '-').forbids c = false := by
    have hsign : isSign c = false := by
      simp [isSign, ne_of_isDigit hc]
    rw [Mode.forbids, hsign]
    simp
  have htokens := tokens_numeral h
  rw [hs] at htokens ⊢
  exact tokens_concat hrun rfl rfl hforbids htokens

end

end Ferry.Sql
