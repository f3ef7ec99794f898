import Ferry.Calendar.Clock
import Ferry.Proofs.Text.Numeral
import Mathlib.Data.List.Basic

set_option autoImplicit false

/-! # Dates and times are told apart by their texts

Different dates have different texts, in all years (`Date.text_inj`). A text cut off to microseconds
tells times apart that have no parts of a microsecond (`Clock.textMicros_inj`), and the text with as
many digits as are needed tells all of them apart (`Clock.text_inj`). The second 60 of a leap second
is one of its own. -/

namespace Ferry.Calendar

open Text (padZeros padZeros_inj length_padZeros notMem_padZeros isDigit)

/-- Digits of two fields end where their width ends. -/
theorem padZeros_append_inj {width m n : Nat} {xs ys : List Char} (hm : m.repr.length ≤ width)
    (hn : n.repr.length ≤ width)
    (h : (padZeros width (toString m)).toList ++ xs = (padZeros width (toString n)).toList ++ ys) :
    m = n ∧ xs = ys := by
  obtain ⟨hfield, hrest⟩ :=
    List.append_inj h (by rw [length_padZeros hm, length_padZeros hn])
  exact ⟨padZeros_inj hfield, hrest⟩

theorem repr_length_le_two {n : Nat} (h : n < 100) : n.repr.length ≤ 2 :=
  (Nat.length_repr_le_iff (by decide)).2 h

/-- A mark that is in neither text ends both texts at once. -/
theorem append_cons_inj {mark : Char} {as bs xs ys : List Char} (ha : mark ∉ as) (hb : mark ∉ bs)
    (h : as ++ mark :: xs = bs ++ mark :: ys) : as = bs ∧ xs = ys := by
  induction as generalizing bs with
  | nil =>
      cases bs with
      | nil => exact ⟨rfl, (List.cons.inj h).2⟩
      | cons b bs => exact absurd ((List.cons.inj h).1 ▸ List.mem_cons_self) hb
  | cons a as ih =>
      cases bs with
      | nil => exact absurd ((List.cons.inj h).1 ▸ List.mem_cons_self) ha
      | cons b bs =>
          obtain ⟨hhead, htail⟩ := List.cons.inj h
          obtain ⟨has, hrest⟩ :=
            ih (fun hmem => ha (List.mem_cons_of_mem a hmem))
              (fun hmem => hb (List.mem_cons_of_mem b hmem)) htail
          exact ⟨congrArg₂ List.cons hhead has, hrest⟩

/-! ## Dates -/

namespace Date

theorem toList_minus : "-".toList = ['-'] := rfl

theorem toList_plus : "+".toList = ['+'] := rfl

/-- A year is read back from its text. -/
theorem integer?_yearText (year : Int) : Text.integer? (yearText year).toList = some year := by
  unfold yearText
  by_cases hrange : 0 ≤ year ∧ year ≤ 9999
  · -- No sign stands in front, for all characters are digits.
    have hdigit := Text.isDigit_padZeros 4 year.toNat
    have hyear : ((year.toNat : Nat) : Int) = year := Int.toNat_of_nonneg hrange.1
    rw [if_pos hrange]
    unfold Text.integer?
    split
    · next cs hsign =>
        exact absurd (hdigit '-' (by simp only [hsign, List.mem_cons_self])) (by decide)
    · next cs hsign =>
        exact absurd (hdigit '+' (by simp only [hsign, List.mem_cons_self])) (by decide)
    · rw [Text.natural?_padZeros]
      exact congrArg some hyear
  · rw [if_neg hrange, String.toList_append]
    by_cases hneg : year < 0
    · have habs : -(year.natAbs : Int) = year := by omega
      rw [if_pos hneg, toList_minus, List.singleton_append, Text.integer?, Text.natural?_padZeros]
      exact congrArg some habs
    · have habs : (year.natAbs : Int) = year := by omega
      rw [if_neg hneg, toList_plus, List.singleton_append, Text.integer?, Text.natural?_padZeros]
      exact congrArg some habs

/-- Month and day behind the year. -/
def dayText (d : Date) : List Char :=
  '-' :: ((padZeros 2 (toString d.month)).toList ++ '-' :: (padZeros 2 (toString d.day)).toList)

theorem toList_text (d : Date) : d.text.toList = (yearText d.year).toList ++ d.dayText := by
  simp [text, dayText]

theorem month_lt (d : Date) : d.month < 100 := by
  have hmonth := d.isDate.2.1
  omega

theorem day_lt (d : Date) : d.day < 100 := by
  have hday := d.isDate.2.2
  have hlast : daysInMonth d.year d.month ≤ 31 := by
    unfold daysInMonth
    split_ifs <;> decide
  omega

theorem length_dayText (d : Date) : d.dayText.length = 6 := by
  rw [dayText, List.length_cons, List.length_append, List.length_cons,
    length_padZeros (repr_length_le_two d.month_lt), length_padZeros (repr_length_le_two d.day_lt)]

theorem text_inj {a b : Date} (h : a.text = b.text) : a = b := by
  have hchars := congrArg String.toList h
  rw [toList_text, toList_text] at hchars
  obtain ⟨hyear, hday⟩ := List.append_inj' hchars (by rw [length_dayText, length_dayText])
  have hread := congrArg Text.integer? hyear
  rw [integer?_yearText, integer?_yearText, Option.some.injEq] at hread
  obtain ⟨hmonth, hday⟩ := padZeros_append_inj (repr_length_le_two a.month_lt)
    (repr_length_le_two b.month_lt) (List.cons.inj hday).2
  have hday := padZeros_inj (List.cons.inj hday).2
  cases a
  cases b
  simp_all

/-- A date is written with digits and signs. -/
theorem notMem_text {c : Char} (d : Date) (hc : isDigit c = false) (hminus : c ≠ '-')
    (hplus : c ≠ '+') : c ∉ d.text.toList := by
  have hfield (width n : Nat) := notMem_padZeros (c := c) width n hc
  have hyear : c ∉ (yearText d.year).toList := by
    unfold yearText
    split_ifs <;>
      simp only [String.toList_append, toList_minus, toList_plus, List.mem_append,
        List.mem_singleton, hfield, hminus, hplus, or_self, not_false_eq_true]
  simp only [toList_text, dayText, List.mem_append, List.mem_cons, hfield, hyear, hminus, or_self,
    not_false_eq_true]

end Date

/-! ## Times of day -/

namespace Clock

theorem toList_hms (c : Clock) : c.hms.toList = (padZeros 2 (toString c.hour)).toList
    ++ ':' :: ((padZeros 2 (toString c.minute)).toList
      ++ ':' :: (padZeros 2 (toString c.shownSecond)).toList) := by
  simp [hms]

theorem shownSecond_lt (c : Clock) : c.shownSecond < 100 := by
  obtain ⟨-, -, hsecond, hnano, -⟩ := c.isTime
  unfold shownSecond
  omega

theorem hms_append_inj {a b : Clock} {xs ys : List Char}
    (h : a.hms.toList ++ xs = b.hms.toList ++ ys) :
    (a.hour = b.hour ∧ a.minute = b.minute ∧ a.shownSecond = b.shownSecond) ∧ xs = ys := by
  have hhour (c : Clock) : c.hour < 100 := by
    have hlt := c.isTime.1
    omega
  have hminute (c : Clock) : c.minute < 100 := by
    have hlt := c.isTime.2.1
    omega
  simp only [toList_hms, List.append_assoc, List.cons_append] at h
  obtain ⟨hh, h⟩ := padZeros_append_inj (repr_length_le_two (hhour a))
    (repr_length_le_two (hhour b)) h
  obtain ⟨hm, h⟩ := padZeros_append_inj (repr_length_le_two (hminute a))
    (repr_length_le_two (hminute b)) (List.cons.inj h).2
  obtain ⟨hs, h⟩ := padZeros_append_inj (repr_length_le_two a.shownSecond_lt)
    (repr_length_le_two b.shownSecond_lt) (List.cons.inj h).2
  exact ⟨⟨hh, hm, hs⟩, h⟩

/-- Only a leap second shows 60, so the shown second and its part tell second and nanosecond. -/
theorem eq_of_shown {a b : Clock}
    (h : a.hour = b.hour ∧ a.minute = b.minute ∧ a.shownSecond = b.shownSecond)
    (hpart : a.part = b.part) : a = b := by
  obtain ⟨hhour, hminute, hsecond⟩ := h
  obtain ⟨-, -, ha, hanano, haleap⟩ := a.isTime
  obtain ⟨-, -, hb, hbnano, hbleap⟩ := b.isTime
  unfold shownSecond at hsecond
  unfold part at hpart
  have hnano : a.nano = b.nano := by omega
  have hsecond : a.second = b.second := by omega
  cases a
  cases b
  simp_all

/-- The time has no part of a microsecond. -/
def IsWhole (c : Clock) : Prop := c.nano % 1000 = 0

theorem IsWhole.part {c : Clock} (h : c.IsWhole) : c.part % 1000 = 0 := by
  unfold IsWhole at h
  unfold Clock.part
  omega

theorem textMicros_inj {a b : Clock} (ha : a.IsWhole) (hb : b.IsWhole)
    (h : a.textMicros = b.textMicros) : a = b := by
  have hchars := congrArg String.toList h
  simp only [textMicros, String.toList_append] at hchars
  obtain ⟨hshown, hmicro⟩ := hms_append_inj hchars
  simp only [microText, String.toList_append] at hmicro
  have hmicros := padZeros_inj (List.append_cancel_left hmicro)
  have hawhole := ha.part
  have hbwhole := hb.part
  exact eq_of_shown hshown (by omega)

/-- The digits of a fraction: their number and the number that they are. -/
theorem fractionText_eq (c : Clock) : c.fractionText = "" ∧ c.part = 0 ∨
    ∃ width n, c.fractionText = "." ++ padZeros width (toString n) ∧ 0 < c.part ∧
      (width = 3 ∧ c.part = n * 1000000 ∨ width = 6 ∧ c.part = n * 1000 ∨
        width = 9 ∧ c.part = n) := by
  unfold fractionText
  split_ifs with hnone hmilli hmicro
  · exact .inl ⟨rfl, hnone⟩
  · exact .inr ⟨3, _, rfl, by omega, .inl ⟨rfl, by omega⟩⟩
  · exact .inr ⟨6, _, rfl, by omega, .inr (.inl ⟨rfl, by omega⟩)⟩
  · exact .inr ⟨9, _, rfl, by omega, .inr (.inr ⟨rfl, rfl⟩)⟩

theorem part_lt (c : Clock) : c.part < 1000000000 := Nat.mod_lt _ (by decide)

theorem fractionText_inj {a b : Clock} (h : a.fractionText = b.fractionText) : a.part = b.part := by
  rcases a.fractionText_eq with ⟨ha, hzero⟩ | ⟨width, m, ha, hapos, hm⟩ <;>
    rcases b.fractionText_eq with ⟨hb, hzero'⟩ | ⟨width', n, hb, hbpos, hn⟩
  · omega
  · rw [ha, hb] at h
    exact absurd (congrArg String.toList h) (by simp)
  · rw [ha, hb] at h
    exact absurd (congrArg String.toList h) (by simp)
  · -- Fields of different widths have different numbers of digits.
    have hwidth : ∀ {c : Clock} {width n : Nat},
        (width = 3 ∧ c.part = n * 1000000 ∨ width = 6 ∧ c.part = n * 1000 ∨
          width = 9 ∧ c.part = n) → n.repr.length ≤ width := by
      intro c width n hcases
      have hlt := c.part_lt
      rcases hcases with ⟨rfl, hpart⟩ | ⟨rfl, hpart⟩ | ⟨rfl, hpart⟩
      · exact (Nat.length_repr_le_iff (by decide)).2 (by omega)
      · exact (Nat.length_repr_le_iff (by decide)).2 (by omega)
      · exact (Nat.length_repr_le_iff (by decide)).2 (by omega)
    rw [ha, hb] at h
    have hdigits := congrArg String.toList h
    simp only [String.toList_append, List.append_cancel_left_eq] at hdigits
    have hsame := congrArg List.length hdigits
    rw [length_padZeros (hwidth hm), length_padZeros (hwidth hn)] at hsame
    subst hsame
    have hvalue := padZeros_inj hdigits
    omega

theorem text_inj {a b : Clock} (h : a.text = b.text) : a = b := by
  have hchars := congrArg String.toList h
  simp only [text, String.toList_append] at hchars
  obtain ⟨hshown, hfraction⟩ := hms_append_inj hchars
  exact eq_of_shown hshown (fractionText_inj (String.toList_inj.1 hfraction))

end Clock

/-! ## Points in time -/

namespace Moment

/-- A mark that is in no date ends the date in front of it. -/
theorem date_append_inj {a b : Date} {mark : Char} {xs ys : List Char}
    (hmark : isDigit mark = false) (hminus : mark ≠ '-') (hplus : mark ≠ '+')
    (h : a.text.toList ++ mark :: xs = b.text.toList ++ mark :: ys) : a = b ∧ xs = ys := by
  obtain ⟨hdate, hrest⟩ := append_cons_inj (a.notMem_text hmark hminus hplus)
    (b.notMem_text hmark hminus hplus) h
  exact ⟨Date.text_inj (String.toList_inj.1 hdate), hrest⟩

theorem textMicros_inj {a b : Moment} (ha : a.clock.IsWhole) (hb : b.clock.IsWhole)
    (h : a.textMicros = b.textMicros) : a = b := by
  have hchars := congrArg String.toList h
  simp only [textMicros, String.toList_append, List.append_assoc] at hchars
  obtain ⟨hdate, hclock⟩ := date_append_inj rfl (by decide) (by decide) hchars
  exact congrArg₂ Moment.mk hdate (Clock.textMicros_inj ha hb (String.toList_inj.1 hclock))

theorem textInternet_inj {a b : Moment} (h : a.textInternet = b.textInternet) : a = b := by
  have hchars := congrArg String.toList h
  simp only [textInternet, String.toList_append] at hchars
  have hchars := List.append_cancel_right hchars
  simp only [List.append_assoc] at hchars
  obtain ⟨hdate, hclock⟩ := date_append_inj rfl (by decide) (by decide) hchars
  exact congrArg₂ Moment.mk hdate (Clock.text_inj (String.toList_inj.1 hclock))

end Moment

end Ferry.Calendar
