/-!
# Instants and the calendar

An `Instant` counts seconds from the start of 1970 and nanoseconds within the second; the last second of a
minute may have up to two seconds' worth of them, a leap second.  `Instant.date` and `Instant.clock` read it
on the Gregorian calendar and on a 24-hour clock, both in universal time.
-/

namespace Logbook

structure Instant where
  seconds : Int
  nanoseconds : Nat
deriving DecidableEq, Inhabited

/-- A day of the Gregorian calendar, extended to all years. -/
structure Date where
  year : Int
  month : Nat
  day : Nat
deriving DecidableEq

/-- A time of day; the second is 60 inside a leap second. -/
structure Clock where
  hour : Nat
  minute : Nat
  second : Nat
  nanosecond : Nat
deriving DecidableEq

namespace Date

def isLeap (year : Int) : Bool := year % 4 = 0 && (year % 100 ≠ 0 || year % 400 = 0)

/-- The date that many days after the first of January 1970.  Years are counted from March, in eras of 400
years, so that the leap day ends a year. -/
def ofDays (days : Int) : Date :=
  let z := days + 719468
  let era := z / 146097
  let dayOfEra := (z % 146097).toNat
  let yearOfEra := (dayOfEra - dayOfEra / 1460 + dayOfEra / 36524 - dayOfEra / 146096) / 365
  let dayOfYear := dayOfEra - (365 * yearOfEra + yearOfEra / 4 - yearOfEra / 100)
  let monthFromMarch := (5 * dayOfYear + 2) / 153
  let day := dayOfYear - (153 * monthFromMarch + 2) / 5 + 1
  let month := if monthFromMarch < 10 then monthFromMarch + 3 else monthFromMarch - 9
  let year := (yearOfEra : Int) + era * 400 + (if month ≤ 2 then 1 else 0)
  ⟨year, month, day⟩

/-- Days before each month of a common year. -/
def daysBefore : List Nat := [0, 31, 59, 90, 120, 151, 181, 212, 243, 273, 304, 334]

/-- The number of the day in its year, from 1. -/
def ordinal (d : Date) : Nat :=
  daysBefore.getD (d.month - 1) 0 + d.day + (if 2 < d.month && isLeap d.year then 1 else 0)

/-- The day of the week that many days after the first of January 1970, a Thursday; Monday is 0. -/
def weekdayOfDays (days : Int) : Nat := ((days + 3) % 7).toNat

/-- The weeks of the year so far that began on a given day of the week. -/
def weeksFrom (ordinal daysSince : Nat) : Nat := (ordinal + 6 - daysSince) / 7

/-- The number of weeks in a year, where a week belongs to the year that holds its Thursday. -/
def isoWeeksIn (year : Int) : Nat :=
  let firstWeekday (y : Int) : Int :=
    (y - 1 + (y - 1) / 4 - (y - 1) / 100 + (y - 1) / 400) % 7
  if firstWeekday year = 3 ∨ (firstWeekday year = 2 ∧ isLeap year) then 53 else 52

/-- Year and number of the week that holds the day, where a week belongs to the year of its Thursday. -/
def isoWeek (d : Date) (weekday : Nat) : Int × Nat :=
  let week : Int := ((d.ordinal : Int) - (weekday + 1) + 10) / 7
  if week < 1 then (d.year - 1, isoWeeksIn (d.year - 1))
  else if (isoWeeksIn d.year : Int) < week then (d.year + 1, 1)
  else (d.year, week.toNat)

end Date

namespace Instant

/-- Whole days since the start of 1970. -/
def days (t : Instant) : Int := t.seconds / 86400

def date (t : Instant) : Date := Date.ofDays t.days

def weekday (t : Instant) : Nat := Date.weekdayOfDays t.days

def clock (t : Instant) : Clock :=
  let s := (t.seconds % 86400).toNat
  ⟨s / 3600, s / 60 % 60, s % 60 + t.nanoseconds / 1000000000, t.nanoseconds % 1000000000⟩

/-- Milliseconds since the start of 1970. -/
def milliseconds (t : Instant) : Int := t.seconds * 1000 + (t.nanoseconds / 1000000 : Nat)

end Instant

end Logbook
