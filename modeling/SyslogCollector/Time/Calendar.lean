/-!
# The civil calendar

Dates of the proleptic Gregorian calendar and their day numbers, counted from 1970-01-01.
-/

namespace SyslogCollector

/-- A year, a month from 1 and a day from 1. -/
structure Date where
  /-- Astronomical year: 0 is 1 BC. -/
  year : Int
  /-- Month, 1 to 12. -/
  month : Nat
  /-- Day of the month, from 1. -/
  day : Nat
  deriving DecidableEq, Repr

namespace Date

/-- Leap years of the Gregorian calendar. -/
def isLeapYear (year : Int) : Bool :=
  year % 4 == 0 && (year % 100 != 0 || year % 400 == 0)

/-- The number of days in a month. -/
def daysInMonth (year : Int) (month : Nat) : Nat :=
  match month with
  | 2 => if isLeapYear year then 29 else 28
  | 4 | 6 | 9 | 11 => 30
  | _ => 31

/-- Whether the date is on the calendar. -/
def isValid (d : Date) : Bool :=
  1 ≤ d.month && d.month ≤ 12 && 1 ≤ d.day && d.day ≤ daysInMonth d.year d.month

/-- Days since 1970-01-01. The year is taken to begin in March, so that the leap day comes last
and the months before a given one have `(153 * m + 2) / 5` days. -/
def toDays (d : Date) : Int :=
  let year := if d.month ≤ 2 then d.year - 1 else d.year
  let month : Int := if d.month ≤ 2 then d.month + 9 else d.month - 3
  365 * year + year / 4 - year / 100 + year / 400 + (153 * month + 2) / 5 + d.day - 719469

/-- The date of a day number. A cycle of 400 years has 146097 days. -/
def ofDays (days : Int) : Date :=
  let shifted := days + 719468
  let era := shifted / 146097
  let dayOfEra := shifted % 146097
  let yearOfEra := (dayOfEra - dayOfEra / 1460 + dayOfEra / 36524 - dayOfEra / 146096) / 365
  let dayOfYear := dayOfEra - (365 * yearOfEra + yearOfEra / 4 - yearOfEra / 100)
  let month := (5 * dayOfYear + 2) / 153
  let day := dayOfYear - (153 * month + 2) / 5 + 1
  let year := yearOfEra + era * 400
  if month < 10 then ⟨year, (month + 3).toNat, day.toNat⟩
  else ⟨year + 1, (month - 9).toNat, day.toNat⟩

/-- The first year of the calendar that instants may lie in. -/
def firstYear : Int := -262143

/-- The last year of the calendar that instants may lie in. -/
def lastYear : Int := 262142

example : toDays ⟨1970, 1, 1⟩ = 0 ∧ toDays ⟨2000, 2, 29⟩ = 11016 ∧
    toDays ⟨-1, 6, 1⟩ = -719742 := by decide

example : ofDays 11016 = ⟨2000, 2, 29⟩ ∧ ofDays (-719742) = ⟨-1, 6, 1⟩ ∧
    ofDays (-1) = ⟨1969, 12, 31⟩ := by decide

end Date

end SyslogCollector
