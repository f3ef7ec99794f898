import Ferry.Proofs.Sql.Grammar
import Ferry.Sql.Insert

set_option autoImplicit false

/-! # Literals as expressions

The literal of every value is one expression. What is written between quotes without doubling them
has none in it, and a number that is written without quotes is a numeral, with a minus sign at most
in front of it. -/

namespace Ferry

open Number (Binary64 FloatStyle)

/-! ## Texts without single quotes -/

/-- There is no single quote in the text. -/
def Unquoted (s : String) : Prop := '\'' ∉ s.toList

section
variable {s t : String} {cs : List Char} {n : Nat} {c : Char}

instance : Decidable (Unquoted s) := inferInstanceAs (Decidable ('\'' ∉ s.toList))

@[simp] theorem unquoted_append : Unquoted (s ++ t) ↔ Unquoted s ∧ Unquoted t := by
  simp [Unquoted, not_or]

@[simp] theorem unquoted_ofList : Unquoted (String.ofList cs) ↔ '\'' ∉ cs := by
  rw [Unquoted, String.toList_ofList]

theorem isDigit_of_mem_repr (h : c ∈ n.repr.toList) : c.isDigit = true := by
  rw [Nat.toList_repr] at h
  exact Nat.isDigit_of_mem_toDigits (by decide) (by decide) h

@[simp] theorem unquoted_repr (n : Nat) : Unquoted n.repr := fun h =>
  absurd (isDigit_of_mem_repr h) (by decide)

@[simp] theorem unquoted_padZeros (width : Nat) :
    Unquoted (Text.padZeros width s) ↔ Unquoted s := by
  simp [Text.padZeros, Text.repeated]

theorem quote_notMem_hexDigits (width n : Nat) : '\'' ∉ Text.hexDigits width n := by
  have hdigit : ∀ d < 16, Nat.digitChar d ≠ '\'' := by decide
  induction width generalizing n with
  | zero => exact List.not_mem_nil
  | succ width ih =>
      have hlast := (hdigit (n % 16) (Nat.mod_lt n (by decide))).symm
      simp [Text.hexDigits, ih, hlast]

@[simp] theorem unquoted_hexOfBytes (b : List UInt8) : Unquoted (Text.hexOfBytes b) := by
  simp [Text.hexOfBytes, quote_notMem_hexDigits]

theorem quote_notMem_hyphenated {groups : List Nat} (h : '\'' ∉ cs) :
    '\'' ∉ Uuid.hyphenated groups cs := by
  induction groups, cs using Uuid.hyphenated.induct with
  | case1 cs => exact h
  | case2 n cs => exact h
  | case3 n m rest cs ih =>
      have hfront : '\'' ∉ cs.take n := fun hmem => h (List.mem_of_mem_take hmem)
      have hback := ih (fun hmem => h (List.mem_of_mem_drop hmem))
      simp [Uuid.hyphenated, hfront, hback]

@[simp] theorem unquoted_uuid (u : Uuid) : Unquoted u.text :=
  unquoted_ofList.2 (quote_notMem_hyphenated (quote_notMem_hexDigits _ _))

@[simp] theorem unquoted_magnitudeText (magnitude scale : Nat) :
    Unquoted (Number.Decimal.magnitudeText magnitude scale) := by
  have hdigits : Unquoted (Text.padZeros (scale + 1) (toString magnitude)) := by simp
  rw [Number.Decimal.magnitudeText]
  split
  · exact hdigits
  · refine unquoted_append.2 ⟨unquoted_append.2 ⟨?_, by decide⟩, ?_⟩
    · exact unquoted_ofList.2 (fun hmem => hdigits (List.mem_of_mem_take hmem))
    · exact unquoted_ofList.2 (fun hmem => hdigits (List.mem_of_mem_drop hmem))

/-- A sign or a mark that is written in one case only. -/
theorem unquoted_ite {p : Prop} [Decidable p] (hs : Unquoted s) (ht : Unquoted t) :
    Unquoted (if p then s else t) := by
  split
  · exact hs
  · exact ht

@[simp] theorem unquoted_decimal (d : Number.Decimal) : Unquoted d.text :=
  unquoted_append.2 ⟨unquoted_ite (by decide) (by decide), unquoted_magnitudeText _ _⟩

@[simp] theorem unquoted_yearText (year : Int) : Unquoted (Calendar.Date.yearText year) := by
  have hsign : Unquoted (if year < 0 then "-" else "+") := unquoted_ite (by decide) (by decide)
  exact unquoted_ite (by simp) (by simp [hsign])

@[simp] theorem unquoted_date (d : Calendar.Date) : Unquoted d.text := by
  have hhyphen : Unquoted "-" := by decide
  simp [Calendar.Date.text, hhyphen]

@[simp] theorem unquoted_hms (c : Calendar.Clock) : Unquoted c.hms := by
  have hcolon : Unquoted ":" := by decide
  simp [Calendar.Clock.hms, hcolon]

@[simp] theorem unquoted_clock (c : Calendar.Clock) : Unquoted c.text := by
  have hempty : Unquoted "" := by decide
  have hpoint : Unquoted "." := by decide
  have hfraction : Unquoted c.fractionText :=
    unquoted_ite hempty (unquoted_ite (by simp [hpoint])
      (unquoted_ite (by simp [hpoint]) (by simp [hpoint])))
  simp [Calendar.Clock.text, hfraction]

@[simp] theorem unquoted_clock_micros (c : Calendar.Clock) : Unquoted c.textMicros := by
  have hpoint : Unquoted "." := by decide
  simp [Calendar.Clock.textMicros, Calendar.Clock.microText, hpoint]

@[simp] theorem unquoted_moment_micros (m : Calendar.Moment) : Unquoted m.textMicros := by
  have hblank : Unquoted " " := by decide
  simp [Calendar.Moment.textMicros, hblank]

@[simp] theorem unquoted_moment_internet (m : Calendar.Moment) : Unquoted m.textInternet := by
  have hletter : Unquoted "T" := by decide
  have hzone : Unquoted "+00:00" := by decide
  simp [Calendar.Moment.textInternet, hletter, hzone]

end

/-! ## Numerals -/

namespace Sql

variable {n : Nat} {c : Char}

theorem isDigits_repr (n : Nat) : IsDigits n.repr.toList := by
  refine ⟨?_, fun c hc => isDigit_of_mem_repr hc⟩
  rw [Nat.toList_repr]
  exact Nat.toDigits_ne_nil

theorem isDigit_of_mem_zeros (h : c ∈ (Text.repeated '0' n).toList) : c.isDigit = true := by
  rw [Text.repeated, String.toList_ofList] at h
  rw [List.eq_of_mem_replicate h]
  rfl

theorem isDigits_append {ds es : List Char} (hne : ds ++ es ≠ [])
    (hds : ∀ c ∈ ds, c.isDigit = true) (hes : ∀ c ∈ es, c.isDigit = true) : IsDigits (ds ++ es) :=
  ⟨hne, List.forall_mem_append.2 ⟨hds, hes⟩⟩

/-- Digits are a numeral wherever the point falls. -/
theorem isNumeral_positionalText {digits : String} (h : IsDigits digits.toList) (point : Int) :
    IsNumeral (Number.positionalText digits point "") := by
  obtain ⟨hne, hall⟩ := h
  rw [Number.positionalText]
  by_cases hfront : point ≤ 0
  · -- The point is in front of all digits, and zeros between it and them.
    rw [if_pos hfront]
    refine .inr ⟨['0'], (Text.repeated '0' (-point).toNat).toList ++ digits.toList, ?_, ?_, ?_⟩
    · simp [IsDigits]
    · exact isDigits_append (by simp [hne]) (fun _ => isDigit_of_mem_zeros) hall
    · simp
  · rw [if_neg hfront]
    by_cases hback : (digits.length : Int) ≤ point
    · rw [if_pos hback, String.append_empty]
      refine .inl ?_
      rw [String.toList_append]
      exact isDigits_append (by simp [hne]) hall (fun _ => isDigit_of_mem_zeros)
    · rw [if_neg hback]
      have hlength : digits.length = digits.toList.length := String.length_toList.symm
      refine .inr ⟨digits.toList.take point.toNat, digits.toList.drop point.toNat, ⟨?_, ?_⟩,
        ⟨?_, ?_⟩, by simp⟩
      · rw [Ne, List.take_eq_nil_iff, not_or]
        exact ⟨by omega, hne⟩
      · exact fun c hc => hall c (List.mem_of_mem_take hc)
      · rw [Ne, List.drop_eq_nil_iff, ← hlength]
        omega
      · exact fun c hc => hall c (List.mem_of_mem_drop hc)

theorem isNumeral_magnitude (x : Binary64) : IsNumeral (FloatStyle.plain.magnitude x) := by
  rw [FloatStyle.magnitude]
  split
  · exact .inl (isDigits_repr 0)
  · exact isNumeral_positionalText (isDigits_repr _) _

/-! ## Expressions -/

namespace Expr

/-- How an expression is written. -/
def spelling : Expr → String
  | null => "NULL"
  | bool b => if b then "TRUE" else "FALSE"
  | number negative numeral => (if negative then "-" else "") ++ numeral
  | text content none => quotedText content
  | text content (some type) => quotedText content ++ "::" ++ type

/-- A number is a numeral, and a type is a word. -/
def Proper : Expr → Prop
  | number _ numeral => IsNumeral numeral
  | text _ (some type) => isWord type = true
  | _ => True

theorem quotedText_toList (s : String) : (quotedText s).toList = quotedChars '\'' s := by
  simp [quotedText, quotedChars, Identifier.escapeLiteral]

/-- What is written for an expression is cut into its tokens. -/
theorem tokens_spelling {e : Expr} (h : e.Proper) :
    Sql.tokens e.spelling.toList = some e.tokens := by
  cases e with
  | null => exact tokens_word rfl
  | bool b => cases b <;> exact tokens_word rfl
  | number negative numeral =>
      cases negative with
      | false => simpa [spelling, tokens] using tokens_numeral h
      | true => simpa [spelling, tokens] using tokens_negative h
  | text content type =>
      cases type with
      | none =>
          rw [spelling, quotedText_toList]
          exact tokens_text content
      | some type =>
          have htyped := tokens_typed content h
          simpa [spelling, quotedText_toList, tokens] using htyped

/-- The expression that stands for a value. -/
def ofValue : Value → Expr
  | .null => null
  | .bool b => bool b
  | .int n => number (n < 0) (toString n.natAbs)
  | .float x =>
    if x.isNaN then text "NaN" (some "float8")
    else if x.isInfinite then
      text (if x.negative then "-Infinity" else "Infinity") (some "float8")
    else number x.negative (FloatStyle.plain.magnitude x)
  | .decimal d => text d.text (some "numeric")
  | .text s => text s none
  | .bytes b => text ("\\x" ++ Text.hexOfBytes b) (some "bytea")
  | .uuid u => text u.text (some "uuid")
  | .timestamp m => text m.textMicros (some "timestamp")
  | .timestampUtc m => text m.textInternet (some "timestamptz")
  | .date d => text d.text (some "date")
  | .time t => text t.textMicros (some "time")
  | .json d => text d.compact none

theorem proper_ofValue (v : Value) : (ofValue v).Proper := by
  cases v with
  | int n => exact .inl (isDigits_repr _)
  | float x =>
      rw [ofValue]
      split
      · rfl
      · split
        · rfl
        · exact isNumeral_magnitude x
  | decimal | bytes | uuid | timestamp | timestampUtc | date | time => rfl
  | null | bool | text | json => trivial

theorem doubled_of_notMem {quote : Char} {cs : List Char} (h : quote ∉ cs) :
    Identifier.doubled quote cs = cs := by
  induction cs with
  | nil => rfl
  | cons c rest ih =>
      obtain ⟨hc, hrest⟩ := not_or.1 (fun hmem => h (List.mem_cons.2 hmem))
      rw [Identifier.doubled, if_neg (Ne.symm hc), ih hrest]

/-- A text without single quotes is written the same with or without doubling them. -/
theorem spelling_typed {s : String} (h : Unquoted s) (type : String) :
    (text s (some type)).spelling = typedText s type := by
  have hmark : "'" ++ "::" = "'::" := by decide
  rw [spelling, typedText, quotedText, Identifier.escapeLiteral, doubled_of_notMem h,
    String.ofList_toList, ← hmark]
  simp only [String.append_assoc]

/-- The expression of a value is written as the literal of the value. -/
theorem spelling_ofValue (v : Value) : (ofValue v).spelling = literal v := by
  cases v with
  | null | bool | text | json => rfl
  | int n =>
      cases n with
      | ofNat n =>
          have hsign : ¬ Int.ofNat n < 0 := by simp
          simp only [ofValue, spelling, hsign, decide_false, literal]
          exact String.empty_append
      | negSucc n =>
          have hsign : Int.negSucc n < 0 := Int.negSucc_lt_zero n
          simp only [ofValue, spelling, hsign, decide_true, literal]
          rfl
  | float x =>
      rw [ofValue, literal, floatLiteral]
      split
      · exact spelling_typed (by decide) _
      · rename_i hnan
        split
        · exact spelling_typed (unquoted_ite (by decide) (by decide)) _
        · rename_i hfinite
          rw [FloatStyle.text, if_neg hnan, if_neg hfinite]
          rfl
  | decimal d => exact spelling_typed (unquoted_decimal d) _
  | bytes b =>
      have hmark : Unquoted "\\x" := by decide
      exact spelling_typed (by simp [hmark]) _
  | uuid u => exact spelling_typed (unquoted_uuid u) _
  | timestamp m => exact spelling_typed (unquoted_moment_micros m) _
  | timestampUtc m => exact spelling_typed (unquoted_moment_internet m) _
  | date d => exact spelling_typed (unquoted_date d) _
  | time t => exact spelling_typed (unquoted_clock_micros t) _

/-- The literal of a value is cut into the tokens of its expression. -/
theorem tokens_literal (v : Value) : Sql.tokens (literal v).toList = some (ofValue v).tokens := by
  rw [← spelling_ofValue]
  exact tokens_spelling (proper_ofValue v)

end Expr

end Sql

end Ferry
