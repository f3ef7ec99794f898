import Ferry.Proofs.Text.Hex
import Ferry.Uuid

set_option autoImplicit false

/-! # Identifiers are told apart by their texts

The hyphens are taken out of the grouped form again, and the digits are those of one word. -/

namespace Ferry.Uuid

theorem ungrouped?_hyphenated {groups : List Nat} {cs : List Char} (h : cs.length = groups.sum) :
    ungrouped? groups (hyphenated groups cs) = some cs := by
  induction groups, cs using hyphenated.induct with
  | case1 cs =>
      rw [List.length_eq_zero_iff.1 h]
      rfl
  | case2 n cs => exact if_pos h
  | case3 n m rest cs ih =>
      rw [List.sum_cons] at h
      have htake : (cs.take n).length = n := List.length_take_of_le (by omega)
      have hdrop : (cs.take n ++ '-' :: hyphenated (m :: rest) (cs.drop n)).drop n
          = '-' :: hyphenated (m :: rest) (cs.drop n) := List.drop_left' htake
      have hfront : (cs.take n ++ '-' :: hyphenated (m :: rest) (cs.drop n)).take n = cs.take n :=
        List.take_left' htake
      have hlength : (cs.drop n).length = (m :: rest).sum := by
        rw [List.length_drop]
        omega
      rw [hyphenated, ungrouped?, hdrop, hfront]
      simp only [ih hlength, Option.map_some, List.take_append_drop]

theorem text_inj {u v : Uuid} (h : u.text = v.text) : u = v := by
  have hgrouped : hyphenated groups (Text.hexDigits 32 u.word.toNat)
      = hyphenated groups (Text.hexDigits 32 v.word.toNat) := String.ofList_injective h
  have hread := congrArg (ungrouped? groups) hgrouped
  rw [ungrouped?_hyphenated (Text.length_hexDigits 32 _),
    ungrouped?_hyphenated (Text.length_hexDigits 32 _), Option.some.injEq] at hread
  have hword : u.word = v.word :=
    BitVec.eq_of_toNat_eq (Text.hexDigits_inj u.word.isLt v.word.isLt hread)
  exact congrArg Uuid.mk hword

end Ferry.Uuid
