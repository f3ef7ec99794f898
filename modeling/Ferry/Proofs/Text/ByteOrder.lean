import Mathlib.Data.List.Basic
import Mathlib.Data.String.Basic

set_option autoImplicit false

/-! # The order of bytes

Texts are compared by their characters, and databases and file formats compare them by their bytes
in UTF-8. It is the same order: a smaller character is encoded by smaller bytes, whatever follows
it (`encode_lt`), so the first character in which two texts differ decides about their bytes too. -/

namespace Ferry.Text

/-- The bytes of a text. -/
def bytes (s : String) : List UInt8 := s.toByteArray.data.toList

theorem bytes_eq (s : String) : bytes s = s.toList.flatMap String.utf8EncodeChar := by
  rw [bytes, ← String.utf8Encode_toList, List.utf8Encode, List.data_toByteArray]

theorem toNat_val_lt (c : Char) : c.val.toNat < 0x110000 := by
  have h := c.valid
  simp only [UInt32.isValidChar, Nat.isValidChar] at h
  omega

/-- Of two characters the smaller one comes first by its bytes, whatever follows. -/
theorem encode_lt {c d : Char} (h : c < d) (us vs : List UInt8) :
    String.utf8EncodeChar c ++ us < String.utf8EncodeChar d ++ vs := by
  have hlt : c.val.toNat < d.val.toNat := h
  have hc := toNat_val_lt c
  have hd := toNat_val_lt d
  generalize hm : c.val.toNat = m at hlt hc
  generalize hn : d.val.toNat = n at hlt hd
  -- A character of more bytes begins with a greater byte; of two with as many bytes, the first
  -- byte that differs is a digit of the code point.
  unfold String.utf8EncodeChar
  dsimp only
  rw [hm, hn]
  split_ifs <;>
    simp (disch := omega) only [List.cons_append, List.nil_append, List.cons_lt_cons_iff,
      UInt8.lt_iff_toNat_lt, ← UInt8.toNat_inj, UInt8.toNat_ofNat', Nat.reducePow,
      Nat.mod_eq_of_lt] <;>
    omega

theorem flatMap_encode_lt {cs ds : List Char} (h : cs < ds) :
    cs.flatMap String.utf8EncodeChar < ds.flatMap String.utf8EncodeChar := by
  induction h with
  | @nil d ds =>
      obtain ⟨b, bs, hd⟩ := List.exists_cons_of_ne_nil (String.utf8EncodeChar_ne_nil (c := d))
      rw [List.flatMap_nil, List.flatMap_cons, hd]
      exact List.nil_lt_cons ..
  | cons _ ih => exact List.append_left_lt ih
  | rel hlt => exact encode_lt hlt _ _

theorem bytes_lt_iff {s t : String} : bytes s < bytes t ↔ s < t := by
  have hforth : ∀ s t : String, s < t → bytes s < bytes t := by
    intro s t h
    rw [bytes_eq, bytes_eq]
    exact flatMap_encode_lt (String.lt_iff_toList_lt.1 h)
  refine ⟨fun h => ?_, hforth s t⟩
  -- The order of texts is linear, so it is enough that the other two cases are impossible.
  rcases lt_trichotomy s t with hlt | rfl | hgt
  · exact hlt
  · exact absurd h (List.lt_irrefl _)
  · exact absurd h (List.lt_asymm (hforth t s hgt))

end Ferry.Text
