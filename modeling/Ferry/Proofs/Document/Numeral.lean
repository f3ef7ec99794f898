import Ferry.Number.FloatText
import Ferry.Proofs.Document.Token
import Ferry.Proofs.Number.Decimal

set_option autoImplicit false

/-! # Numbers in documents

What an integer, a decimal or a finite floating-point number is written as in a document is a
numeral, in the very form that the reader keeps. For a decimal this needs that no needless zero
stands in front of the point, and for a floating-point number that its shortest digits are not all
zero, for they are followed by further zeros. -/

namespace Ferry

/-! ## Shortest digits -/

namespace Number

variable {d : Digits} {i : Binary64.Interval} {x : Binary64} {tie : Tie} {step : Int}
  {a count fuel : Nat}

theorem Digits.strip_ne_zero (h : d.coefficient ≠ 0) : (d.strip fuel).coefficient ≠ 0 := by
  induction fuel generalizing d with
  | zero => exact h
  | succ fuel ih =>
      unfold Digits.strip
      split
      · exact ih (by show d.coefficient / 10 ≠ 0; omega)
      · exact h

/-- Zero is below an interval of positive numbers, so it is no point of it. -/
theorem Binary64.Interval.onGrid_ne_zero (hlow : 0 < i.low) (h : i.onGrid tie step = some a) :
    a ≠ 0 := by
  have hup : 0 < if 0 ≤ step then 1 else Nat.pow 10 (-step).toNat := by
    split
    · exact Nat.one_pos
    · exact Nat.pow_pos (by decide)
  unfold onGrid at h
  dsimp only at h
  generalize (if 0 ≤ step then 1 else Nat.pow 10 (-step).toNat) = up at h hup
  generalize (if 0 ≤ step then i.den * Nat.pow 10 step.toNat else i.den) = den at h
  have hpositive : i.low * up ≠ 0 := Nat.ne_of_gt (Nat.mul_pos hlow hup)
  generalize i.value * up / den = below at h
  by_cases hbelow : below = 0
  · simp only [hbelow, Nat.zero_mul, Nat.not_lt_zero, decide_false, Bool.false_or,
      beq_eq_false_iff_ne.2 hpositive, Bool.and_false, Bool.false_and, Bool.false_eq_true,
      if_false] at h
    split_ifs at h
    cases h
    exact Nat.one_ne_zero
  · cases tie <;> split_ifs at h <;> cases h <;> omega

/-- The digits are not all zero, unless they are those of a whole number. -/
theorem Binary64.Interval.search_ne_zero (hlow : 0 < i.low) :
    (i.search tie count fuel).coefficient ≠ 0 ∨ (i.search tie count fuel).exponent = 0 := by
  induction fuel generalizing count with
  | zero => exact .inr rfl
  | succ fuel ih =>
      unfold Binary64.Interval.search
      dsimp only
      split
      · next hgrid => exact .inl (Digits.strip_ne_zero (onGrid_ne_zero hlow hgrid))
      · exact ih

theorem Binary64.shortest_ne_zero (h : x.significand ≠ 0) :
    (x.shortest tie).coefficient ≠ 0 ∨ (x.shortest tie).exponent = 0 := by
  refine Interval.search_ne_zero ?_
  have hfactor : 0 < if 0 ≤ x.exponent - 2 then Nat.pow 2 (x.exponent - 2).toNat else 1 := by
    split
    · exact Nat.pow_pos (by decide)
    · exact Nat.one_pos
  refine Nat.mul_pos ?_ hfactor
  show 0 < 4 * x.significand - if x.fractionField = 0 ∧ 1 < x.exponentField then 1 else 2
  split <;> omega

end Number

namespace Document

/-! ## Digits in front of a point -/

section
variable {n count : Nat} {s digits : String} {point : Int} {c : Char} {cs : List Char}

theorem isDigits_repr (n : Nat) : IsDigits n.repr.toList :=
  ⟨Text.toList_repr_ne_nil n, Text.isDigit_repr n⟩

theorem isWhole_repr (n : Nat) : IsWhole n.repr.toList := by
  by_cases hzero : n = 0
  · rw [hzero]
    exact .zero
  · exact .digits (isDigits_repr n) (Text.head?_repr_ne hzero)

theorem isWhole_take (hzero : n ≠ 0) (hcount : 0 < count) : IsWhole (n.repr.toList.take count) := by
  refine .digits ⟨?_, fun c hc => Text.isDigit_repr n c (List.mem_of_mem_take hc)⟩ ?_
  · rw [Ne, List.take_eq_nil_iff, not_or]
    exact ⟨by omega, Text.toList_repr_ne_nil n⟩
  · rw [List.head?_take, if_neg (by omega)]
    exact Text.head?_repr_ne hzero

theorem isDigits_singleton (h : Text.isDigit c) : IsDigits [c] :=
  ⟨List.cons_ne_nil c [], List.forall_mem_singleton.2 h⟩

theorem isWhole_singleton (h : Text.isDigit c) : IsWhole [c] := by
  by_cases hzero : c = '0'
  · rw [hzero]
    exact .zero
  · exact .digits (isDigits_singleton h) (by simpa using hzero)

/-- Zeros may follow the digits of a number if there are none or the number is not zero. -/
theorem isWhole_zeros (h : n ≠ 0 ∨ count = 0) :
    IsWhole (n.repr.toList ++ (Text.repeated '0' count).toList) := by
  by_cases hzero : n = 0
  · obtain rfl := h.resolve_left (not_not_intro hzero)
    have hnone : (Text.repeated '0' 0).toList = [] := rfl
    rw [hnone, List.append_nil]
    exact isWhole_repr n
  · refine .digits ⟨by simp, List.forall_mem_append.2
      ⟨Text.isDigit_repr n, fun _ => Text.isDigit_of_mem_zeros⟩⟩ ?_
    rw [List.head?_append, Option.or_of_isSome (by simp)]
    exact Text.head?_repr_ne hzero

/-! ## Numerals without a sign -/

/-- A numeral without a sign. -/
def IsUnsigned (s : String) : Prop :=
  ∃ whole fraction exponent, IsWhole whole ∧ IsFraction fraction ∧ IsExponent exponent ∧
    s.toList = whole ++ fraction ++ exponent

/-- A minus sign may stand in front. -/
theorem IsUnsigned.isNumeral {p : Prop} [Decidable p] (h : IsUnsigned s) :
    IsNumeral ((if p then "-" else "") ++ s) := by
  obtain ⟨whole, fraction, exponent, hwhole, hfraction, hexponent, hs⟩ := h
  have hsigned (sign : List Char) (hsign : IsSign sign) : IsNumeral (String.ofList sign ++ s) := by
    have hparts : String.ofList sign ++ s
        = String.ofList (sign ++ whole ++ fraction ++ exponent) := by
      rw [← String.ofList_toList (s := s), hs, ← String.ofList_append]
      simp only [List.append_assoc]
    rw [hparts]
    exact .parts hsign hwhole hfraction hexponent
  split
  · exact hsigned ['-'] .minus
  · exact hsigned [] .none

theorem isUnsigned_repr (n : Nat) : IsUnsigned n.repr :=
  ⟨_, [], [], isWhole_repr n, .none, .none, by simp⟩

/-! ## Integers and decimals -/

theorem isNumeral_toString (n : Int) : IsNumeral (toString n) := by
  have htext : toString n = (if n < 0 then "-" else "") ++ n.natAbs.repr := by
    cases n with
    | ofNat n => rw [if_neg (by simp), String.empty_append]; rfl
    | negSucc n => rw [if_pos (Int.negSucc_lt_zero n)]; rfl
  rw [htext]
  exact (isUnsigned_repr _).isNumeral

theorem isUnsigned_magnitudeText (magnitude scale : Nat) :
    IsUnsigned (Number.Decimal.magnitudeText magnitude scale) := by
  have htext := Number.Decimal.toList_magnitudeText magnitude scale
  by_cases hscale : scale = 0
  · rw [if_pos hscale, hscale, Number.Decimal.wholeOf_zero] at htext
    rw [hscale]
    exact ⟨_, [], [], isWhole_repr magnitude, .none, .none, by simp [htext]⟩
  · rw [if_neg hscale] at htext
    have hpart : IsDigits (Number.Decimal.partOf magnitude scale) := by
      refine ⟨fun hnone => hscale ?_, fun _ => Number.Decimal.isDigit_of_mem_partOf⟩
      rw [← Number.Decimal.length_partOf magnitude scale, hnone]
      rfl
    refine ⟨_, _, [], ?_, .digits hpart, .none, by rw [htext, List.append_nil]⟩
    rcases Number.Decimal.wholeOf_of_pos magnitude (Nat.pos_of_ne_zero hscale) with
      hzero | ⟨hzero, count, hcount, hwhole⟩
    · rw [hzero]
      exact .zero
    · rw [hwhole]
      exact isWhole_take hzero hcount

theorem isNumeral_decimal (d : Number.Decimal) : IsNumeral d.text :=
  (isUnsigned_magnitudeText _ _).isNumeral

/-! ## Floating-point numbers -/

/-- A whole number ends in a point and a zero; zeros are put between only if it is not zero. -/
theorem isUnsigned_positionalText (h : n ≠ 0 ∨ point = n.repr.length) :
    IsUnsigned (Number.positionalText n.repr point ".0") := by
  obtain ⟨hne, hdigits⟩ := isDigits_repr n
  have hlength : n.repr.length = n.repr.toList.length := String.length_toList.symm
  rw [Number.positionalText]
  by_cases hfront : point ≤ 0
  · rw [if_pos hfront]
    refine ⟨['0'], '.' :: ((Text.repeated '0' (-point).toNat).toList ++ n.repr.toList), [],
      .zero, .digits ⟨by simp, ?_⟩, .none, by simp⟩
    exact List.forall_mem_append.2 ⟨fun _ => Text.isDigit_of_mem_zeros, hdigits⟩
  · rw [if_neg hfront]
    by_cases hback : (n.repr.length : Int) ≤ point
    · rw [if_pos hback]
      refine ⟨n.repr.toList ++ (Text.repeated '0' (point - n.repr.length).toNat).toList, ['.', '0'],
        [], isWhole_zeros (h.imp_right (fun h => by omega)), .digits (isDigits_singleton rfl),
        .none, ?_⟩
      simp
    · rw [if_neg hback]
      have hzero : n ≠ 0 := h.resolve_right (by omega)
      refine ⟨n.repr.toList.take point.toNat, '.' :: n.repr.toList.drop point.toNat, [],
        isWhole_take hzero (by omega), .digits ⟨?_, ?_⟩, .none, by simp⟩
      · rw [Ne, List.drop_eq_nil_iff]
        omega
      · exact fun c hc => hdigits c (List.mem_of_mem_drop hc)

theorem isExponent_power (point : Int) :
    IsExponent ('e' :: ((if 0 < point then "+" else "") ++ toString (point - 1)).toList) := by
  by_cases hpoint : 0 < point
  · obtain ⟨power, hpower⟩ := Int.eq_ofNat_of_zero_le (show 0 ≤ point - 1 by omega)
    have htext : (toString (point - 1)).toList = power.repr.toList := by rw [hpower]; rfl
    rw [if_pos hpoint, String.toList_append, htext]
    exact .digits (.inr rfl) (isDigits_repr power)
  · obtain ⟨power, hpower⟩ := Int.eq_negSucc_of_lt_zero (show point - 1 < 0 by omega)
    have htext : (toString (point - 1)).toList = '-' :: (power + 1).repr.toList := by
      rw [hpower, Int.toString_eq_repr, Int.repr, String.toList_append]
      rfl
    rw [if_neg hpoint, String.empty_append, htext]
    exact .digits (.inl rfl) (isDigits_repr (power + 1))

theorem isUnsigned_scientificText (n : Nat) (point : Int) :
    IsUnsigned (Number.scientificText n.repr point) := by
  have hpower := isExponent_power point
  obtain ⟨hne, hdigits⟩ := isDigits_repr n
  unfold Number.scientificText
  dsimp only
  split
  · next hnone => exact absurd hnone hne
  · next d hone =>
    rw [hone] at hdigits
    exact ⟨[d], [], _, isWhole_singleton (hdigits d (by simp)), .none, hpower, by simp⟩
  · next d rest hrest hmany =>
    rw [hmany] at hdigits
    obtain ⟨hd, hmore⟩ := List.forall_mem_cons.1 hdigits
    exact ⟨[d], '.' :: rest, _, isWhole_singleton hd, .digits ⟨hrest, hmore⟩, hpower, by simp⟩

theorem isUnsigned_magnitude (x : Number.Binary64) :
    IsUnsigned (Number.FloatStyle.document.magnitude x) := by
  unfold Number.FloatStyle.magnitude
  split
  · exact ⟨['0'], ['.', '0'], [], .zero, .digits (isDigits_singleton rfl), .none, rfl⟩
  · next hzero =>
    dsimp only [Number.FloatStyle.document]
    split
    · refine isUnsigned_positionalText ((Number.Binary64.shortest_ne_zero hzero).imp_right ?_)
      intro hexponent
      rw [hexponent, Int.add_zero]
      rfl
    · exact isUnsigned_scientificText _ _

theorem isNumeral_float {x : Number.Binary64} (h : x.isFinite) :
    IsNumeral (Number.FloatStyle.document.text x) := by
  have hfield : x.exponentField ≠ 2047 := bne_iff_ne.1 h
  have hnan : x.isNaN = false := by simp [Number.Binary64.isNaN, hfield]
  have hinfinite : x.isInfinite = false := by simp [Number.Binary64.isInfinite, hfield]
  simp only [Number.FloatStyle.text, hnan, hinfinite, Bool.false_eq_true, if_false]
  exact (isUnsigned_magnitude x).isNumeral

end

end Document

end Ferry
