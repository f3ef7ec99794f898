import Ferry.Text.Hex
import Mathlib.Algebra.Ring.Nat

set_option autoImplicit false

/-! # Hexadecimal digits are read back

A number is read back from as many digits as hold it (`hexNat_hexDigits`), in lower and in upper
case, and bytes from two digits each (`bytesOfHex_hexOfBytes`). So different numbers of one width,
and different bytes, are written differently. -/

namespace Ferry.Text

section
variable {c : Char} {cs ds : List Char} {m n width value : Nat} {write : Char → Char}

theorem length_hexDigits (width n : Nat) : (hexDigits width n).length = width := by
  induction width generalizing n with
  | zero => rfl
  | succ width ih => rw [hexDigits, List.length_append, ih, List.length_singleton]

theorem hexNat_append (value : Nat) :
    hexNat value (cs ++ ds) = (hexNat value cs).bind (hexNat · ds) := by
  induction cs generalizing value with
  | nil => rfl
  | cons c cs ih =>
      rw [List.cons_append, hexNat, hexNat]
      cases hexValue c with
      | none => rfl
      | some d => exact ih (value * 16 + d)

theorem hexValue_digitChar : ∀ d < 16, hexValue (Nat.digitChar d) = some d := by decide

theorem hexValue_toUpper : ∀ d < 16, hexValue (Nat.digitChar d).toUpper = some d := by decide

/-- The digits may be written in any way in which each of them is known again. -/
theorem hexNat_map_hexDigits (hwrite : ∀ d < 16, hexValue (write (Nat.digitChar d)) = some d)
    (h : n < 16 ^ width) :
    hexNat value ((hexDigits width n).map write) = some (value * 16 ^ width + n) := by
  induction width generalizing n with
  | zero =>
      rw [pow_zero, Nat.lt_one_iff] at h
      simp [hexDigits, hexNat, h]
  | succ width ih =>
      have hfront : n / 16 < 16 ^ width :=
        Nat.div_lt_of_lt_mul (by rwa [Nat.mul_comm, ← Nat.pow_succ])
      rw [hexDigits, List.map_append, hexNat_append, ih hfront, Option.bind_some,
        List.map_singleton, hexNat, hwrite _ (Nat.mod_lt n (by decide))]
      show some ((value * 16 ^ width + n / 16) * 16 + n % 16) = _
      rw [Nat.add_mul, Nat.add_assoc, Nat.div_add_mod' n 16, Nat.mul_assoc, ← Nat.pow_succ]

theorem hexNat_hexDigits (h : n < 16 ^ width) : hexNat 0 (hexDigits width n) = some n := by
  have hread : hexNat 0 ((hexDigits width n).map id) = _ :=
    hexNat_map_hexDigits hexValue_digitChar h
  rwa [List.map_id, Nat.zero_mul, Nat.zero_add] at hread

theorem hexDigits_inj (hm : m < 16 ^ width) (hn : n < 16 ^ width)
    (h : hexDigits width m = hexDigits width n) : m = n := by
  have hread := congrArg (hexNat 0) h
  rw [hexNat_hexDigits hm, hexNat_hexDigits hn] at hread
  exact Option.some.inj hread

theorem upperDigits_inj (hm : m < 16 ^ width) (hn : n < 16 ^ width)
    (h : (hexDigits width m).map Char.toUpper = (hexDigits width n).map Char.toUpper) : m = n := by
  have hread := congrArg (hexNat 0) h
  rw [hexNat_map_hexDigits hexValue_toUpper hm, hexNat_map_hexDigits hexValue_toUpper hn] at hread
  simpa using hread

end

/-- Bytes are read back from their digits. -/
theorem bytesOfHex_hexOfBytes (bytes : List UInt8) :
    bytesOfHex (hexOfBytes bytes).toList = some bytes := by
  rw [hexOfBytes, String.toList_ofList]
  induction bytes with
  | nil => rfl
  | cons b rest ih =>
      have hlt : b.toNat < 256 := b.toNat_lt
      have hdigits : hexDigits 2 b.toNat
          = [Nat.digitChar (b.toNat / 16), Nat.digitChar (b.toNat % 16)] := by
        rw [hexDigits, hexDigits, hexDigits, Nat.mod_eq_of_lt (by omega)]
        rfl
      have hbyte : UInt8.ofNat (b.toNat / 16 * 16 + b.toNat % 16) = b := by
        rw [Nat.div_add_mod', UInt8.ofNat_toNat]
      rw [List.flatMap_cons, hdigits, List.cons_append, List.singleton_append, bytesOfHex,
        hexValue_digitChar _ (by omega), hexValue_digitChar _ (by omega), ih]
      exact congrArg (fun b => some (b :: rest)) hbyte

theorem hexOfBytes_inj {a b : List UInt8} (h : hexOfBytes a = hexOfBytes b) : a = b := by
  have hread := congrArg (fun s => bytesOfHex s.toList) h
  simpa only [bytesOfHex_hexOfBytes, Option.some.injEq] using hread

end Ferry.Text
