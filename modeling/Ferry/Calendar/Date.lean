import Ferry.Text.Basic

set_option autoImplicit false

/-! # Calendar dates

Dates of the proleptic Gregorian calendar with astronomical year numbers: the year before year
one is year zero. A date is also a count of days from 2000-01-01, and `Date.ofDays?` turns such a
count into a date when the year is within range. -/

namespace Ferry.Calendar

/-- Whether February has 29 days. -/
def isLeap (year : Int) : Bool := year % 4 == 0 && (year % 100 != 0 || year % 400 == 0)

/-- The number of days of a month. -/
def daysInMonth (year : Int) (month : Nat) : Nat :=
  if month = 2 then (if isLeap year then 29 else 28)
  else if month = 4 ∨ month = 6 ∨ month = 9 ∨ month = 11 then 30
  else 31

/-- The first year that a date can have. -/
def firstYear : Int := -262143

/-- The last year that a date can have. -/
def lastYear : Int := 262142

/-- Whether year, month and day name a day of the calendar. -/
def IsDate (year : Int) (month day : Nat) : Prop :=
  (firstYear ≤ year ∧ year ≤ lastYear) ∧ (1 ≤ month ∧ month ≤ 12)
    ∧ (1 ≤ day ∧ day ≤ daysInMonth year month)

instance (year : Int) (month day : Nat) : Decidable (IsDate year month day) := by
  unfold IsDate; infer_instance

/-- A day of the calendar. -/
structure Date where
  year : Int
  month : Nat
  day : Nat
  isDate : IsDate year month day
deriving DecidableEq

namespace Date

/-- The date with these numbers, if there is one. -/
def ofNumbers? (year : Int) (month day : Nat) : Option Date :=
  if h : IsDate year month day then some ⟨year, month, day, h⟩ else none

/-- The date that lies `days` days after 2000-01-01. Years are counted from the first of March,
    so that the leap day is the last day of its year, in eras of 400 years. -/
def ofDays? (days : Int) : Option Date :=
  let z := days + 730425
  let era := z.fdiv 146097
  let dayOfEra := (z - era * 146097).toNat
  let yearOfEra :=
    (dayOfEra - dayOfEra / 1460 + dayOfEra / 36524 - dayOfEra / 146096) / 365
  let dayOfYear := dayOfEra - (365 * yearOfEra + yearOfEra / 4 - yearOfEra / 100)
  let marchMonth := (5 * dayOfYear + 2) / 153
  let day := dayOfYear - (153 * marchMonth + 2) / 5 + 1
  let month := if marchMonth < 10 then marchMonth + 3 else marchMonth - 9
  let year := (yearOfEra : Int) + era * 400 + (if month ≤ 2 then 1 else 0)
  ofNumbers? year month day

/-- The text of a year: four digits at least, and a sign outside 0 to 9999. -/
def yearText (year : Int) : String :=
  if 0 ≤ year ∧ year ≤ 9999 then Text.padZeros 4 (toString year.toNat)
  else (if year < 0 then "-" else "+") ++ Text.padZeros 4 (toString year.natAbs)

/-- Year, month and day between hyphens. -/
def text (d : Date) : String :=
  yearText d.year ++ "-" ++ Text.padZeros 2 (toString d.month) ++ "-"
    ++ Text.padZeros 2 (toString d.day)

end Date

end Ferry.Calendar
