import Ferry.Proofs.Text.Numeral
import Ferry.Proofs.Yaml.Scalar

set_option autoImplicit false

/-! # Words that are no texts

A natural number of at most 128 bits means itself where it is written plain (`meaning_toString`),
and the truth values and null mean themselves too. So none of them is read as a text, and a text
with the same characters is put in quotes. -/

namespace Ferry

section
variable {c : Char} {cs : List Char} {n : Nat}

theorem Number.DecimalNumeral.takeSign_of_isDigit (h : ∀ c ∈ cs, Text.isDigit c) :
    takeSign cs = (false, cs) := by
  unfold takeSign
  split
  · exact absurd (h '-' List.mem_cons_self) (by decide)
  · exact absurd (h '+' List.mem_cons_self) (by decide)
  · rfl

namespace Yaml

open Number.DecimalNumeral (takeSign_of_isDigit)

/-! ## Digits -/

theorem Plain.digitOf?_ten (h : Text.isDigit c) : digitOf? 10 c = Text.digitValue c := by
  have hdigit := Text.isDigit_iff.1 h
  obtain ⟨hlow, hhigh⟩ := Char.isDigit_iff_toNat.1 hdigit
  have hbound : c.toNat - '0'.toNat < 10 := by
    have hzero : '0'.toNat = 48 := rfl
    have hnine : '9'.toNat = 57 := rfl
    omega
  rw [Text.digitValue_of_isDigit hdigit, digitOf?, Text.hexValue, if_pos ⟨hlow, hhigh⟩,
    Option.filter_some, if_pos (decide_eq_true hbound)]

theorem Plain.digitsOnto_ten (value : Nat) (h : ∀ c ∈ cs, Text.isDigit c) :
    digitsOnto 10 value cs = Text.digitsOnto value cs := by
  induction cs generalizing value with
  | nil => rfl
  | cons c cs ih =>
      obtain ⟨hc, hcs⟩ := List.forall_mem_cons.1 h
      rw [digitsOnto, Text.digitsOnto, digitOf?_ten hc]
      cases Text.digitValue c with
      | none => rfl
      | some d => exact ih _ hcs

/-- The digits of a number begin with a zero only if there is no other. -/
theorem Plain.hasNeedlessZero_repr (n : Nat) : hasNeedlessZero n.repr = false := by
  rw [hasNeedlessZero, takeSign_of_isDigit (Text.isDigit_repr n)]
  by_cases hn : n = 0
  · subst hn
    rfl
  · have hhead := Text.head?_repr_ne hn
    cases hchars : n.repr.toList with
    | nil => rfl
    | cons c cs =>
        rw [hchars] at hhead
        split
        · next heq =>
          obtain ⟨rfl, -⟩ := List.cons.inj heq
          exact absurd rfl hhead
        · rfl

theorem Plain.magnitude?_repr (n : Nat) : magnitude? n.repr.toList = some n := by
  have hdigits := Text.isDigit_repr n
  unfold magnitude?
  split
  · next heq => exact absurd (hdigits 'x' (by simp [heq])) (by decide)
  · next heq => exact absurd (hdigits 'o' (by simp [heq])) (by decide)
  · next heq => exact absurd (hdigits 'b' (by simp [heq])) (by decide)
  · rw [String.ofList_toList, hasNeedlessZero_repr, if_neg (by decide), natural?,
      if_neg (mt List.isEmpty_iff.1 (Text.toList_repr_ne_nil n)), digitsOnto_ten 0 hdigits,
      Text.digitsOnto_repr]

theorem Plain.int?_repr (n : Nat) : int? n.repr = some (n : Int) := by
  have hdigits := Text.isDigit_repr n
  unfold int?
  split
  · next heq => exact absurd (hdigits '-' (by simp [heq])) (by decide)
  · next heq => exact absurd (hdigits '+' (by simp [heq])) (by decide)
  · rw [magnitude?_repr]
    rfl

/-! ## What the words mean -/

/-- No number is one of the words that have letters. -/
theorem Plain.repr_notMem {words : List String}
    (h : words.all (fun w => !w.toList.all Text.isDigit) = true) : n.repr ∉ words := by
  intro hmem
  have hdigits : n.repr.toList.all Text.isDigit = true :=
    List.all_eq_true.2 (Text.isDigit_repr n)
  have hletter := List.all_eq_true.1 h _ hmem
  rw [hdigits] at hletter
  cases hletter

theorem Plain.meaning_toString (h : n < 2 ^ 128) : meaning (toString n) = .int n := by
  have hempty : n.repr.isEmpty = false := by
    rw [Bool.eq_false_iff, ne_eq, String.isEmpty_iff]
    exact fun hnil => Text.toList_repr_ne_nil n (by rw [hnil]; rfl)
  have hnull : isNullWord n.repr = false := by
    rw [isNullWord, Bool.eq_false_iff, ne_eq, List.contains_iff_mem]
    exact repr_notMem (by decide)
  have hbool : bool? n.repr = none := by
    rw [bool?, if_neg, if_neg] <;> rw [List.contains_iff_mem] <;> exact repr_notMem (by decide)
  have hcounted : isCounted n = true := by
    simp only [isCounted, Nat.pow_eq, Bool.and_eq_true, decide_eq_true_eq]
    omega
  rw [Nat.toString_eq_repr, meaning, hempty, hnull, hbool, int?_repr, Option.filter_some,
    if_pos hcounted]
  rfl

theorem isWord_toString (h : n < 2 ^ 128) : IsWord (toString n) where
  ne_empty hempty := Text.toList_repr_ne_nil n (by rw [← Nat.toString_eq_repr, hempty]; rfl)
  letters := by
    refine List.all_eq_true.2 (fun c hc => ?_)
    have hdigit := Text.isDigit_iff.1 (Text.isDigit_repr n c hc)
    simp [Char.isAlphanum, hdigit]
  means := by rw [readsAsText, Plain.meaning_toString h]

theorem isWord_null : IsWord "null" := ⟨by decide, by decide, by decide⟩

theorem isWord_bool (b : Bool) : IsWord (if b then "true" else "false") := by
  cases b
  · exact ⟨by decide, by decide, by decide⟩
  · exact ⟨by decide, by decide, by decide⟩

end Yaml

end

end Ferry
