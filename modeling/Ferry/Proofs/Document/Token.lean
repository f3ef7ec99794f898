import Ferry.Document.Parser
import Ferry.Document.Printer
import Mathlib.Data.List.TakeWhile

set_option autoImplicit false

/-! # Numbers and strings are read back

The text of a number that was read once is a numeral (`isNumeral_of_parseNumber`), and a numeral is
read as itself (`parseNumber_append`). A string is read back from the text in which it is written,
whatever characters it has (`parseString_stringText`). Both go on to what stands behind them. -/

namespace Ferry.Document

/-- What may stand behind a value in a compact text: nothing, or a mark that ends it. -/
def Ends (rest : List Char) : Prop :=
  ∀ c, rest.head? = some c → c = ',' ∨ c = ']' ∨ c = '\x7d'

theorem ends_nil : Ends [] := fun _ h => by cases h

theorem ends_cons {c : Char} {rest : List Char} (h : c = ',' ∨ c = ']' ∨ c = '\x7d') :
    Ends (c :: rest) := fun _ hc => Option.some.inj hc ▸ h

/-! ## Numbers -/

/-- One or more digits. -/
def IsDigits (cs : List Char) : Prop := cs ≠ [] ∧ ∀ c ∈ cs, Text.isDigit c

/-- No digit follows. -/
def NoDigit (rest : List Char) : Prop := ∀ c, rest.head? = some c → Text.isDigit c = false

inductive IsSign : List Char → Prop
  | none : IsSign []
  | minus : IsSign ['-']

inductive IsWhole : List Char → Prop
  | zero : IsWhole ['0']
  | digits {cs : List Char} (h : IsDigits cs) (hzero : cs.head? ≠ some '0') : IsWhole cs

inductive IsFraction : List Char → Prop
  | none : IsFraction []
  | digits {cs : List Char} (h : IsDigits cs) : IsFraction ('.' :: cs)

/-- The exponent as it is kept: with a small letter and a sign. -/
inductive IsExponent : List Char → Prop
  | none : IsExponent []
  | digits {sign : Char} {cs : List Char} (hsign : sign = '-' ∨ sign = '+') (h : IsDigits cs) :
      IsExponent ('e' :: sign :: cs)

/-- The text of a number as a document keeps it. -/
inductive IsNumeral : String → Prop
  | parts {sign whole fraction exponent : List Char} (hsign : IsSign sign) (hwhole : IsWhole whole)
      (hfraction : IsFraction fraction) (hexponent : IsExponent exponent) :
      IsNumeral (String.ofList (sign ++ whole ++ fraction ++ exponent))

section
variable {cs ds rest : List Char} {text : String}

theorem spanDigits_append (hdigits : ∀ c ∈ ds, Text.isDigit c) (hrest : NoDigit rest) :
    spanDigits (ds ++ rest) = (ds, rest) := by
  have hnone : rest.takeWhile Text.isDigit = [] ∧ rest.dropWhile Text.isDigit = rest := by
    cases rest with
    | nil => exact ⟨rfl, rfl⟩
    | cons c rest =>
        have hc := hrest c rfl
        exact ⟨List.takeWhile_cons_of_neg (by simp [hc]), List.dropWhile_cons_of_neg (by simp [hc])⟩
  rw [spanDigits, List.takeWhile_append_of_pos hdigits, List.dropWhile_append_of_pos hdigits,
    hnone.1, hnone.2, List.append_nil]

theorem isDigits_spanDigits (h : ¬ (spanDigits cs).1.isEmpty) : IsDigits (spanDigits cs).1 :=
  ⟨mt List.isEmpty_iff.2 h, fun _ hc => List.mem_takeWhile_imp hc⟩

/-! ### The parts of a number -/

theorem isWhole_of_wholePart (h : wholePart cs = some (ds, rest)) : IsWhole ds := by
  unfold wholePart at h
  split at h
  · cases h
    exact .zero
  · next hzero =>
    dsimp only at h
    split_ifs at h with hempty
    cases h
    refine .digits (isDigits_spanDigits hempty) (fun hhead => ?_)
    cases cs with
    | nil => cases hhead
    | cons c cs =>
        by_cases hc : Text.isDigit c
        · rw [spanDigits, List.takeWhile_cons_of_pos hc] at hhead
          exact hzero cs (Option.some.inj hhead ▸ rfl)
        · rw [spanDigits, List.takeWhile_cons_of_neg hc] at hhead
          cases hhead

theorem isFraction_of_fractionPart (h : fractionPart cs = some (ds, rest)) : IsFraction ds := by
  unfold fractionPart at h
  split at h
  · dsimp only at h
    split_ifs at h with hempty
    cases h
    exact .digits (isDigits_spanDigits hempty)
  · cases h
    exact .none

theorem isExponent_of_exponentPart (h : exponentPart cs = some (ds, rest)) : IsExponent ds := by
  unfold exponentPart at h
  split at h
  · cases h
    exact .none
  · next c more =>
    split_ifs at h with hletter
    · dsimp only at h
      split at h
      all_goals
        split_ifs at h with hempty
        cases h
        exact .digits (by simp) (isDigits_spanDigits hempty)
    · cases h
      exact .none

theorem wholePart_append (h : IsWhole ds) (hrest : NoDigit rest) :
    wholePart (ds ++ rest) = some (ds, rest) := by
  cases h with
  | zero => rfl
  | digits hdigits hzero =>
      unfold wholePart
      split
      · next hhead =>
        cases ds with
        | nil => exact absurd rfl hdigits.1
        | cons c ds =>
            obtain ⟨rfl, -⟩ := List.cons.inj hhead
            exact absurd rfl hzero
      · rw [spanDigits_append hdigits.2 hrest]
        simp [hdigits.1]

theorem fractionPart_append (h : IsFraction ds) (hdigit : NoDigit rest)
    (hpoint : rest.head? ≠ some '.') : fractionPart (ds ++ rest) = some (ds, rest) := by
  cases h with
  | none =>
      rw [List.nil_append]
      unfold fractionPart
      split
      · exact absurd rfl hpoint
      · rfl
  | digits hdigits =>
      rw [List.cons_append, fractionPart, spanDigits_append hdigits.2 hdigit]
      simp [hdigits.1]

theorem exponentPart_append (h : IsExponent ds) (hdigit : NoDigit rest)
    (hletter : rest.head? ≠ some 'e' ∧ rest.head? ≠ some 'E') :
    exponentPart (ds ++ rest) = some (ds, rest) := by
  cases h with
  | none =>
      rw [List.nil_append]
      cases rest with
      | nil => rfl
      | cons c rest =>
          have hc : ¬ (c = 'e' ∨ c = 'E') := by
            rintro (rfl | rfl)
            · exact hletter.1 rfl
            · exact hletter.2 rfl
          simp only [exponentPart, if_neg hc]
  | digits hsign hdigits =>
      rcases hsign with rfl | rfl
      all_goals
        simp only [List.cons_append, exponentPart, true_or, if_true,
          spanDigits_append hdigits.2 hdigit]
        simp [hdigits.1]

/-! ### Whole numbers -/

theorem IsExponent.noDigit (h : IsExponent ds) (hrest : NoDigit rest) : NoDigit (ds ++ rest) := by
  cases h with
  | none => exact hrest
  | digits => exact fun c hc => Option.some.inj hc ▸ rfl

theorem IsExponent.noPoint (h : IsExponent ds) (hrest : rest.head? ≠ some '.') :
    (ds ++ rest).head? ≠ some '.' := by
  cases h with
  | none => exact hrest
  | digits => exact fun hc => absurd (Option.some.inj hc) (by decide)

theorem IsFraction.noDigit (h : IsFraction ds) (hrest : NoDigit rest) : NoDigit (ds ++ rest) := by
  cases h with
  | none => exact hrest
  | digits => exact fun c hc => Option.some.inj hc ▸ rfl

theorem IsWhole.head (h : IsWhole ds) : ∃ c more, ds = c :: more ∧ Text.isDigit c := by
  cases h with
  | zero => exact ⟨'0', [], rfl, rfl⟩
  | digits hdigits =>
      cases ds with
      | nil => exact absurd rfl hdigits.1
      | cons c more => exact ⟨c, more, rfl, hdigits.2 c List.mem_cons_self⟩

theorem Ends.noDigit (h : Ends rest) : NoDigit rest := by
  intro c hc
  rcases h c hc with rfl | rfl | rfl <;> rfl

theorem Ends.head_ne (h : Ends rest) {c : Char} (hc : ¬ (c = ',' ∨ c = ']' ∨ c = '\x7d')) :
    rest.head? ≠ some c := fun hhead => hc (h c hhead)

theorem IsNumeral.head (h : IsNumeral text) :
    ∃ c more, text.toList = c :: more ∧ (c = '-' ∨ Text.isDigit c) := by
  cases h with
  | parts hsign hwhole =>
      obtain ⟨c, more, rfl, hc⟩ := hwhole.head
      cases hsign with
      | none => exact ⟨c, _, by rw [String.toList_ofList]; rfl, .inr hc⟩
      | minus => exact ⟨'-', _, by rw [String.toList_ofList]; rfl, .inl rfl⟩

/-- What is kept of a number is a numeral. -/
theorem isNumeral_of_parseNumber (h : parseNumber cs = some (text, rest)) : IsNumeral text := by
  simp only [parseNumber, Option.bind_eq_bind, Option.bind_eq_some_iff] at h
  obtain ⟨⟨whole, cs₁⟩, hwhole, ⟨fraction, cs₂⟩, hfraction, ⟨exponent, cs₃⟩, hexponent, hout⟩ := h
  cases hout
  refine .parts ?_ (isWhole_of_wholePart hwhole) (isFraction_of_fractionPart hfraction)
    (isExponent_of_exponentPart hexponent)
  split
  · exact .minus
  · exact .none

/-- A number behind its sign. -/
def parseUnsigned (sign cs : List Char) : Option (String × List Char) := do
  let (whole, cs) ← wholePart cs
  let (fraction, cs) ← fractionPart cs
  let (exponent, cs) ← exponentPart cs
  return (String.ofList (sign ++ whole ++ fraction ++ exponent), cs)

theorem parseNumber_of_digit {c : Char} (hc : Text.isDigit c) :
    parseNumber (c :: cs) = parseUnsigned [] (c :: cs) := by
  unfold parseNumber
  split
  next sign cs hsplit =>
  split at hsplit
  · next hminus =>
    cases hminus
    cases hc
  · cases hsplit
    rfl

theorem parseUnsigned_append {sign whole fraction exponent : List Char} (hwhole : IsWhole whole)
    (hfraction : IsFraction fraction) (hexponent : IsExponent exponent) (hrest : Ends rest) :
    parseUnsigned sign (whole ++ (fraction ++ (exponent ++ rest)))
      = some (String.ofList (sign ++ whole ++ fraction ++ exponent), rest) := by
  have hdigit := hexponent.noDigit hrest.noDigit
  have hpoint := hexponent.noPoint (hrest.head_ne (c := '.') (by decide))
  simp only [parseUnsigned, Option.bind_eq_bind,
    wholePart_append hwhole (hfraction.noDigit hdigit),
    fractionPart_append hfraction hdigit hpoint,
    exponentPart_append hexponent hrest.noDigit
      ⟨hrest.head_ne (by decide), hrest.head_ne (by decide)⟩, Option.bind_some]
  rfl

/-- A numeral is read as itself. -/
theorem parseNumber_append (h : IsNumeral text) (hrest : Ends rest) :
    parseNumber (text.toList ++ rest) = some (text, rest) := by
  cases h with
  | @parts sign whole fraction exponent hsign hwhole hfraction hexponent =>
      have hread : parseUnsigned sign _ = _ :=
        parseUnsigned_append hwhole hfraction hexponent hrest
      have htext : (String.ofList (sign ++ whole ++ fraction ++ exponent)).toList ++ rest
          = sign ++ (whole ++ (fraction ++ (exponent ++ rest))) := by
        rw [String.toList_ofList]
        simp only [List.append_assoc]
      rw [htext, ← hread]
      cases hsign with
      | none =>
          obtain ⟨c, more, rfl, hc⟩ := hwhole.head
          exact parseNumber_of_digit hc
      | minus => rfl

end

/-! ## Strings -/

theorem codeUnit?_hexDigits :
    ∀ n < 0x20, codeUnit? (Nat.digitChar (n / 16 / 16 / 16 % 16)) (Nat.digitChar (n / 16 / 16 % 16))
      (Nat.digitChar (n / 16 % 16)) (Nat.digitChar (n % 16)) = some n := by decide

theorem hexDigits_four (n : Nat) :
    Text.hexDigits 4 n = [Nat.digitChar (n / 16 / 16 / 16 % 16), Nat.digitChar (n / 16 / 16 % 16),
      Nat.digitChar (n / 16 % 16), Nat.digitChar (n % 16)] := rfl

/-- A character is read back from the form in which it is written. -/
theorem parseChars_stringChar (held : List Char) (c : Char) (rest : List Char) :
    parseChars held (stringChar c ++ rest) = parseChars (c :: held) rest := by
  unfold stringChar
  split_ifs with hquote hslash hnewline hreturn htab hback hfeed hcontrol
  · subst hquote
    rfl
  · subst hslash
    rfl
  · subst hnewline
    rfl
  · subst hreturn
    rfl
  · subst htab
    rfl
  · subst hback
    rfl
  · subst hfeed
    rfl
  · have hunit := codeUnit?_hexDigits c.toNat hcontrol
    rw [hexDigits_four]
    have htrailing : isTrailing c.toNat = false := by
      simp only [isTrailing, Bool.and_eq_false_iff, decide_eq_false_iff_not]
      omega
    have hleading : isLeading c.toNat = false := by
      simp only [isLeading, Bool.and_eq_false_iff, decide_eq_false_iff_not]
      omega
    simp only [List.cons_append, List.nil_append, parseChars, hunit, htrailing, hleading,
      Bool.false_eq_true, if_false, Char.ofNat_toNat]
  · rw [List.singleton_append, parseChars.eq_def]
    split
    · next hcs => cases hcs
    · next hcs => exact absurd (List.cons.inj hcs).1 hquote
    · next hcs => exact absurd (List.cons.inj hcs).1 hslash
    · next hcs => exact absurd (List.cons.inj hcs).1 hslash
    · next hcs =>
      cases hcs
      rw [if_neg hcontrol]

/-- A string is read back from the text in which it is written. -/
theorem parseString_stringText (s : String) (rest : List Char) :
    parseString (s.toList.flatMap stringChar ++ '"' :: rest) = some (s, rest) := by
  have hread : ∀ held cs, parseChars held (cs.flatMap stringChar ++ '"' :: rest)
      = some (String.ofList (held.reverse ++ cs), rest) := by
    intro held cs
    induction cs generalizing held with
    | nil => rw [List.flatMap_nil, List.nil_append, parseChars, List.append_nil]
    | cons c cs ih =>
        rw [List.flatMap_cons, List.append_assoc, parseChars_stringChar, ih]
        simp
  rw [parseString, hread]
  simp

end Ferry.Document
