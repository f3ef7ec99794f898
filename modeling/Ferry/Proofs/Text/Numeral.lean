import Ferry.Text.Basic
import Ferry.Text.Numeral

set_option autoImplicit false

/-! # Digits are read back

The decimal digits of a number are read as that number (`natural?_repr`, `integer?_toString`), also
with zeros in front of them (`natural?_padZeros`). Only zero has a zero in front
(`head?_repr_ne`). -/

namespace Ferry.Text

section
variable {c : Char} {cs ds : List Char} {n width : Nat} {s : String}

theorem digitValue_of_isDigit (h : c.isDigit) : digitValue c = some (c.toNat - '0'.toNat) := by
  obtain ⟨hlow, hhigh⟩ := Char.isDigit_iff_toNat.1 h
  exact if_pos ⟨hlow, hhigh⟩

theorem isDigit_iff : isDigit c ↔ c.isDigit := by
  refine ⟨fun h => ?_, fun h => by rw [isDigit, digitValue_of_isDigit h]; rfl⟩
  unfold isDigit digitValue at h
  split at h
  · next hrange => exact Char.isDigit_iff_toNat.2 hrange
  · cases h

/-! ## The digits of a number -/

theorem isDigit_repr (n : Nat) : ∀ c ∈ n.repr.toList, isDigit c := by
  intro c hc
  rw [Nat.toList_repr] at hc
  exact isDigit_iff.2 (Nat.isDigit_of_mem_toDigits (by decide) (by decide) hc)

theorem toList_repr_ne_nil (n : Nat) : n.repr.toList ≠ [] := by
  rw [Nat.toList_repr]
  exact Nat.toDigits_ne_nil

/-- By induction on the number of digits: the first digit of a number is that of its tenth. -/
theorem head?_repr_ne (h : n ≠ 0) : n.repr.toList.head? ≠ some '0' := by
  rw [Nat.toList_repr]
  induction n using Nat.strongRecOn with
  | ind n ih =>
      by_cases hone : n < 10
      · have hdigit : ∀ d < 10, d ≠ 0 → Nat.digitChar d ≠ '0' := by decide
        rw [Nat.toDigits_of_lt_base hone, List.head?_cons]
        exact fun hzero => hdigit n hone h (Option.some.inj hzero)
      · have hsplit := Nat.toDigits_of_base_le (b := 10) (by decide) (Nat.le_of_not_lt hone)
        rw [hsplit, List.head?_append, Option.or_of_isSome (by simp [Nat.toDigits_ne_nil])]
        exact ih (n / 10) (by omega) (by omega)

/-! ## Reading them -/

theorem digitsOnto_append (value : Nat) :
    digitsOnto value (cs ++ ds) = (digitsOnto value cs).bind (digitsOnto · ds) := by
  induction cs generalizing value with
  | nil => rfl
  | cons c cs ih =>
      rw [List.cons_append, digitsOnto, digitsOnto]
      cases digitValue c with
      | none => rfl
      | some d => exact ih (value * 10 + d)

theorem digitsOnto_of_isDigit (value : Nat) (h : ∀ c ∈ cs, c.isDigit) :
    digitsOnto value cs = some (Nat.ofDigitChars 10 cs value) := by
  induction cs generalizing value with
  | nil => rfl
  | cons c cs ih =>
      obtain ⟨hc, hcs⟩ := List.forall_mem_cons.1 h
      rw [digitsOnto, digitValue_of_isDigit hc, Nat.ofDigitChars_cons, Nat.mul_comm 10]
      exact ih _ hcs

theorem digitsOnto_repr (n : Nat) : digitsOnto 0 n.repr.toList = some n := by
  rw [digitsOnto_of_isDigit 0 (fun c hc => isDigit_iff.1 (isDigit_repr n c hc)), Nat.toList_repr,
    Nat.ofDigitChars_toDigits (by decide) (by decide)]

theorem natural?_repr (n : Nat) : natural? n.repr.toList = some n := by
  rw [natural?, if_neg (mt List.isEmpty_iff.1 (toList_repr_ne_nil n)), digitsOnto_repr]

theorem digitsOnto_zeros (width : Nat) : digitsOnto 0 (repeated '0' width).toList = some 0 := by
  rw [repeated, String.toList_ofList]
  induction width with
  | zero => rfl
  | succ width ih => exact ih

theorem toList_padZeros (width n : Nat) : (padZeros width (toString n)).toList
    = (repeated '0' (width - n.repr.length)).toList ++ n.repr.toList := by
  rw [padZeros, String.toList_append, Nat.toString_eq_repr]

/-- Zeros in front change nothing. -/
theorem natural?_padZeros (width n : Nat) :
    natural? (padZeros width (toString n)).toList = some n := by
  have hempty : ¬ (padZeros width (toString n)).toList.isEmpty := by
    rw [toList_padZeros]
    simp
  rw [natural?, if_neg hempty, toList_padZeros, digitsOnto_append, digitsOnto_zeros,
    Option.bind_some, digitsOnto_repr]

theorem isDigit_of_mem_zeros (h : c ∈ (repeated '0' width).toList) : isDigit c := by
  rw [repeated, String.toList_ofList] at h
  rw [List.eq_of_mem_replicate h]
  rfl

theorem isDigit_padZeros (width n : Nat) :
    ∀ c ∈ (padZeros width (toString n)).toList, isDigit c := by
  intro c hc
  rw [toList_padZeros, List.mem_append] at hc
  rcases hc with hzero | hdigit
  · exact isDigit_of_mem_zeros hzero
  · exact isDigit_repr n c hdigit

theorem padZeros_inj {m : Nat}
    (h : (padZeros width (toString m)).toList = (padZeros width (toString n)).toList) : m = n := by
  have hread := congrArg natural? h
  rw [natural?_padZeros, natural?_padZeros] at hread
  exact Option.some.inj hread

/-- A number that is not wider than that fills its width. -/
theorem length_padZeros (h : n.repr.length ≤ width) :
    (padZeros width (toString n)).toList.length = width := by
  rw [toList_padZeros, List.length_append, String.length_toList, String.length_toList, repeated,
    String.length_ofList, List.length_replicate]
  omega

theorem notMem_padZeros (width n : Nat) (hc : isDigit c = false) :
    c ∉ (padZeros width (toString n)).toList := fun hmem =>
  absurd (isDigit_padZeros width n c hmem) (by simp [hc])

theorem integer?_repr (n : Nat) : integer? n.repr.toList = some (n : Int) := by
  -- No sign stands in front, for the first character is a digit.
  unfold integer?
  split
  · next cs hsign => exact absurd (isDigit_repr n '-' (by simp [hsign])) (by decide)
  · next cs hsign => exact absurd (isDigit_repr n '+' (by simp [hsign])) (by decide)
  · rw [natural?_repr]
    rfl

/-- An integer is read back from its digits behind its sign. -/
theorem integer?_toString (n : Int) : integer? (toString n).toList = some n := by
  cases n with
  | ofNat n => exact integer?_repr n
  | negSucc n =>
      have htext : (toString (Int.negSucc n)).toList = '-' :: (n + 1).repr.toList := by
        rw [Int.toString_eq_repr, Int.repr, String.toList_append]
        rfl
      rw [htext, integer?, natural?_repr]
      rfl

theorem int64?_toString {n : Int} (h : inInt64 n) : int64? (toString n) = some n := by
  rw [int64?, integer?_toString, Option.filter_some, if_pos h]

end

end Ferry.Text
