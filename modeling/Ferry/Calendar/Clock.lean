import Ferry.Calendar.Date

set_option autoImplicit false

/-! # Times of day and points in time

A time of day has nanoseconds. A leap second is written as second 60: it is kept as second 59
with a whole second more in its nanoseconds. -/

namespace Ferry.Calendar

/-- Whether hour, minute, second and nanosecond name a time of day. -/
def IsTime (hour minute second nano : Nat) : Prop :=
  hour < 24 ∧ minute < 60 ∧ second < 60 ∧ nano < 2000000000
    ∧ (1000000000 ≤ nano → second = 59)

instance (hour minute second nano : Nat) : Decidable (IsTime hour minute second nano) := by
  unfold IsTime; infer_instance

/-- A time of day. -/
structure Clock where
  hour : Nat
  minute : Nat
  second : Nat
  nano : Nat
  isTime : IsTime hour minute second nano
deriving DecidableEq

namespace Clock

/-- The time with these numbers, if there is one. -/
def ofNumbers? (hour minute second nano : Nat) : Option Clock :=
  if h : IsTime hour minute second nano then some ⟨hour, minute, second, nano, h⟩ else none

/-- Microseconds in a day. -/
def microsPerDay : Nat := 86400000000

/-- The time that lies a number of microseconds after midnight, modulo a day. -/
def ofMicros (micros : Int) : Clock :=
  let n := (micros % microsPerDay).toNat % microsPerDay
  { hour := n / 3600000000, minute := n / 60000000 % 60, second := n / 1000000 % 60,
    nano := n % 1000000 * 1000,
    isTime := by
      have h : n < 86400000000 := Nat.mod_lt _ (by decide)
      refine ⟨?_, ?_, ?_, ?_, ?_⟩ <;> omega }

/-- The second that is shown: 60 within a leap second. -/
def shownSecond (c : Clock) : Nat := c.second + c.nano / 1000000000

/-- The part of the shown second, in nanoseconds. -/
def part (c : Clock) : Nat := c.nano % 1000000000

/-- Hours, minutes and seconds between colons. -/
def hms (c : Clock) : String :=
  Text.padZeros 2 (toString c.hour) ++ ":" ++ Text.padZeros 2 (toString c.minute) ++ ":"
    ++ Text.padZeros 2 (toString c.shownSecond)

/-- The fraction of a second with as few groups of three digits as hold it; nothing for zero. -/
def fractionText (c : Clock) : String :=
  if c.part = 0 then ""
  else if c.part % 1000000 = 0 then "." ++ Text.padZeros 3 (toString (c.part / 1000000))
  else if c.part % 1000 = 0 then "." ++ Text.padZeros 6 (toString (c.part / 1000))
  else "." ++ Text.padZeros 9 (toString c.part)

/-- The fraction of a second in whole microseconds, always six digits. -/
def microText (c : Clock) : String := "." ++ Text.padZeros 6 (toString (c.part / 1000))

/-- The time with the digits it needs. -/
def text (c : Clock) : String := c.hms ++ c.fractionText

/-- The time cut off to microseconds. -/
def textMicros (c : Clock) : String := c.hms ++ c.microText

end Clock

/-- A point in time: a date and a time of day, without a zone or in coordinated universal time
    as its use says. -/
structure Moment where
  date : Date
  clock : Clock
deriving DecidableEq

namespace Moment

/-- The moment that lies a number of microseconds after midnight of 2000-01-01, if its date is
    within range. -/
def ofMicros? (micros : Int) : Option Moment :=
  (Date.ofDays? (micros / Clock.microsPerDay)).map (fun date => ⟨date, Clock.ofMicros micros⟩)

/-- Date and time with a blank between. -/
def text (m : Moment) : String := m.date.text ++ " " ++ m.clock.text

/-- Date and time with a blank between, cut off to microseconds. -/
def textMicros (m : Moment) : String := m.date.text ++ " " ++ m.clock.textMicros

/-- The text of a moment in coordinated universal time. -/
def textUtc (m : Moment) : String := m.text ++ "+00:00"

/-- Date and time of a moment in coordinated universal time, with a `T` between. -/
def textInternet (m : Moment) : String := m.date.text ++ "T" ++ m.clock.text ++ "+00:00"

/-- Date and time of a moment in coordinated universal time, in the form of a time stamp. -/
def textStamp (m : Moment) : String := m.date.text ++ "T" ++ m.clock.text ++ "Z"

end Moment

end Ferry.Calendar
