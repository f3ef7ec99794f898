import Ferry.Number.Decimal
import Ferry.Proofs.Text.Numeral

set_option autoImplicit false

/-! # Decimals are read back

The text of a decimal has the digits of its coefficient, with zeros in front where the scale needs
them and a point before the last ones. Reading it gives the decimal again, with its scale
(`parse?_text`). -/

namespace Ferry.Number.Decimal

open Text (isDigit natural?)

/-! ## The digits of a magnitude -/

/-- The digits of a magnitude, of which there are more than stand behind the point. -/
def digitsOf (magnitude scale : Nat) : List Char :=
  (Text.padZeros (scale + 1) (toString magnitude)).toList

/-- The digits in front of the point. -/
def wholeOf (magnitude scale : Nat) : List Char :=
  (digitsOf magnitude scale).take ((digitsOf magnitude scale).length - scale)

/-- The digits behind the point. -/
def partOf (magnitude scale : Nat) : List Char :=
  (digitsOf magnitude scale).drop ((digitsOf magnitude scale).length - scale)

section
variable {magnitude scale : Nat} {c : Char}

theorem isDigit_of_mem_digitsOf (h : c ∈ digitsOf magnitude scale) : isDigit c :=
  Text.isDigit_padZeros _ _ c h

theorem isDigit_of_mem_wholeOf (h : c ∈ wholeOf magnitude scale) : isDigit c :=
  isDigit_of_mem_digitsOf (List.mem_of_mem_take h)

theorem isDigit_of_mem_partOf (h : c ∈ partOf magnitude scale) : isDigit c :=
  isDigit_of_mem_digitsOf (List.mem_of_mem_drop h)

theorem wholeOf_append_partOf : wholeOf magnitude scale ++ partOf magnitude scale
    = digitsOf magnitude scale := List.take_append_drop _ _

theorem length_digitsOf (magnitude scale : Nat) :
    (digitsOf magnitude scale).length = max (scale + 1) magnitude.repr.toList.length := by
  rw [digitsOf, Text.toList_padZeros, List.length_append, Text.repeated, String.toList_ofList,
    List.length_replicate, String.length_toList]
  omega

theorem length_partOf (magnitude scale : Nat) : (partOf magnitude scale).length = scale := by
  have hlength := length_digitsOf magnitude scale
  rw [partOf, List.length_drop]
  omega

theorem natural?_digitsOf : natural? (digitsOf magnitude scale) = some magnitude :=
  Text.natural?_padZeros _ _

/-- No zeros are put in front of a magnitude that has digits on both sides of the point. -/
theorem digitsOf_of_lt (h : scale < magnitude.repr.toList.length) :
    digitsOf magnitude scale = magnitude.repr.toList := by
  have hnone : scale + 1 - magnitude.repr.length = 0 := by
    rw [← String.length_toList]
    omega
  rw [digitsOf, Text.toList_padZeros, hnone]
  rfl

theorem length_repr_pos (magnitude : Nat) : 0 < magnitude.repr.toList.length :=
  List.length_pos_iff.2 (Text.toList_repr_ne_nil magnitude)

theorem wholeOf_ne_nil : wholeOf magnitude scale ≠ [] := by
  have hlength := length_digitsOf magnitude scale
  rw [wholeOf, ← List.length_pos_iff, List.length_take]
  omega

theorem wholeOf_zero : wholeOf magnitude 0 = magnitude.repr.toList := by
  rw [wholeOf, Nat.sub_zero, List.take_length, digitsOf_of_lt (length_repr_pos magnitude)]

/-- In front of the point stand leading digits of the magnitude, or a zero for want of them. -/
theorem wholeOf_of_pos (magnitude : Nat) (h : 0 < scale) : wholeOf magnitude scale = ['0'] ∨
    magnitude ≠ 0 ∧ ∃ count, 0 < count ∧
      wholeOf magnitude scale = magnitude.repr.toList.take count := by
  by_cases hlong : scale < magnitude.repr.toList.length
  · refine .inr ⟨?_, magnitude.repr.toList.length - scale, by omega, ?_⟩
    · rintro rfl
      exact absurd hlong (Nat.not_lt.2 h)
    · rw [wholeOf, digitsOf_of_lt hlong]
  · left
    have hone : (digitsOf magnitude scale).length - scale = 1 := by
      rw [length_digitsOf]
      omega
    have hzeros : scale + 1 - magnitude.repr.length = scale - magnitude.repr.length + 1 := by
      rw [String.length_toList] at hlong
      omega
    rw [wholeOf, hone, digitsOf, Text.toList_padZeros, hzeros, Text.repeated,
      String.toList_ofList, List.replicate_succ, List.cons_append, List.take_succ_cons,
      List.take_zero]

theorem toList_magnitudeText (magnitude scale : Nat) : (magnitudeText magnitude scale).toList
    = wholeOf magnitude scale ++ if scale = 0 then [] else '.' :: partOf magnitude scale := by
  by_cases hscale : scale = 0
  · have hdigits := digitsOf_of_lt (length_repr_pos magnitude)
    rw [digitsOf] at hdigits
    simp only [hscale, if_true, List.append_nil, wholeOf_zero, magnitudeText, hdigits]
  · simp [magnitudeText, hscale, wholeOf, partOf, digitsOf]

end

/-! ## Reading -/

/-- Read what stands behind the sign of a decimal. -/
def parseUnsigned? (negative : Bool) (cs : List Char) : Option Decimal :=
  let cs := cs.filter (fun c => c != '_')
  let whole := cs.takeWhile (fun c => c != '.')
  let part := (cs.dropWhile (fun c => c != '.')).drop 1
  match natural? (whole ++ part) with
  | some n => ofParts? (if negative then -(n : Int) else n) part.length
  | none => none

section
variable {magnitude scale : Nat} {c : Char}

theorem bne_of_isDigit (h : isDigit c) : (c != '_') = true ∧ (c != '.') = true := by
  constructor <;> exact bne_iff_ne.2 (fun heq => by rw [heq] at h; cases h)

theorem filter_magnitudeText : (magnitudeText magnitude scale).toList.filter (fun c => c != '_')
    = (magnitudeText magnitude scale).toList := by
  refine List.filter_eq_self.2 (fun c hc => ?_)
  rw [toList_magnitudeText, List.mem_append] at hc
  rcases hc with hwhole | hpart
  · exact (bne_of_isDigit (isDigit_of_mem_wholeOf hwhole)).1
  · split at hpart
    · cases hpart
    · rcases List.mem_cons.1 hpart with rfl | hpart
      · rfl
      · exact (bne_of_isDigit (isDigit_of_mem_partOf hpart)).1

/-- The point divides the digits. -/
theorem divide_magnitudeText (magnitude scale : Nat) :
    (magnitudeText magnitude scale).toList.takeWhile (fun c => c != '.')
        = wholeOf magnitude scale ∧
      ((magnitudeText magnitude scale).toList.dropWhile (fun c => c != '.')).drop 1
        = partOf magnitude scale := by
  have hwhole : ∀ c ∈ wholeOf magnitude scale, (c != '.') = true :=
    fun c hc => (bne_of_isDigit (isDigit_of_mem_wholeOf hc)).2
  rw [toList_magnitudeText, List.takeWhile_append_of_pos hwhole,
    List.dropWhile_append_of_pos hwhole]
  by_cases hscale : scale = 0
  · have hnone : partOf magnitude scale = [] := by
      rw [← List.length_eq_zero_iff, length_partOf, hscale]
    simp [hscale, hscale ▸ hnone]
  · simp [hscale]

theorem parseUnsigned?_magnitudeText (negative : Bool) (magnitude scale : Nat) :
    parseUnsigned? negative (magnitudeText magnitude scale).toList
      = ofParts? (if negative then -(magnitude : Int) else magnitude) scale := by
  obtain ⟨hwhole, hpart⟩ := divide_magnitudeText magnitude scale
  rw [parseUnsigned?, filter_magnitudeText]
  simp only [hwhole, hpart, wholeOf_append_partOf, natural?_digitsOf, length_partOf]

end

theorem parse?_magnitudeText (magnitude scale : Nat) :
    parse? (magnitudeText magnitude scale) = ofParts? magnitude scale := by
  -- No sign stands in front, for the first character is a digit.
  have hdigit : ∀ sign more, (magnitudeText magnitude scale).toList = sign :: more →
      isDigit sign := by
    intro sign more hhead
    have hwhole : wholeOf magnitude scale ≠ [] := wholeOf_ne_nil
    rw [toList_magnitudeText] at hhead
    cases hfront : wholeOf magnitude scale with
    | nil => exact absurd hfront hwhole
    | cons c front =>
        rw [hfront, List.cons_append] at hhead
        obtain ⟨rfl, -⟩ := List.cons.inj hhead
        exact isDigit_of_mem_wholeOf (hfront ▸ List.mem_cons_self)
  refine Eq.trans ?_ (parseUnsigned?_magnitudeText false magnitude scale)
  unfold parse?
  split
  next negative cs hsign =>
  split at hsign
  · next more hminus => exact absurd (hdigit _ _ hminus) (by decide)
  · next more hplus => exact absurd (hdigit _ _ hplus) (by decide)
  · cases hsign
    rfl

/-- A decimal is read back from its text, with its scale. -/
theorem parse?_text (d : Decimal) : parse? d.text = some d := by
  by_cases hnegative : d.coefficient < 0
  · have htext : d.text.toList = '-' :: (magnitudeText d.coefficient.natAbs d.scale).toList := by
      rw [text, if_pos hnegative, String.toList_append]
      rfl
    unfold parse?
    rw [htext]
    refine (parseUnsigned?_magnitudeText true _ _).trans ?_
    have hcoefficient : -(d.coefficient.natAbs : Int) = d.coefficient := by omega
    rw [if_pos rfl, hcoefficient, ofParts?, dif_pos ⟨d.coefficient_lt, d.scale_le⟩]
  · have htext : d.text = magnitudeText d.coefficient.natAbs d.scale := by
      rw [text, if_neg hnegative, String.empty_append]
    have hcoefficient : (d.coefficient.natAbs : Int) = d.coefficient := by omega
    rw [htext, parse?_magnitudeText, hcoefficient, ofParts?,
      dif_pos ⟨d.coefficient_lt, d.scale_le⟩]

end Ferry.Number.Decimal
