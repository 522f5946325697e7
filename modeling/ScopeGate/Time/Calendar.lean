/-!
# The calendar

Days are counted from the first of January 1970 in the Gregorian calendar, carried on without end in
both directions, with a year zero. `Date.dayNumber` counts them and `Date.ofDayNumber` finds the
date with a given number. Both work in eras of four hundred years, each of 146097 days, and in years
that begin in March, so that the leap day is the last of its year and the months before a month of
such a year have a number of days that one linear formula gives.
-/

namespace ScopeGate

/-- A date of the calendar, with the months and the days counted from one. -/
structure Date where
  year : Int
  month : Int
  day : Int
  deriving DecidableEq, Repr

namespace Date

def isLeap (year : Int) : Bool := year % 4 = 0 && (year % 100 ≠ 0 || year % 400 = 0)

def daysInMonth (year month : Int) : Int :=
  if month = 2 then (if isLeap year then 29 else 28)
  else if month = 4 ∨ month = 6 ∨ month = 9 ∨ month = 11 then 30
  else 31

def isValid (d : Date) : Bool :=
  1 ≤ d.month && d.month ≤ 12 && 1 ≤ d.day && d.day ≤ daysInMonth d.year d.month

def daysPerEra : Int := 146097

/-- The day number of the first of March of the year zero, below zero. -/
def eraStart : Int := 719468

/-- The number of days from the first of January 1970 to a date. -/
def dayNumber (d : Date) : Int :=
  let year := if d.month ≤ 2 then d.year - 1 else d.year
  let era := year / 400
  let yearOfEra := year % 400
  let month := (d.month + 9) % 12
  let dayOfYear := (153 * month + 2) / 5 + d.day - 1
  let dayOfEra := yearOfEra * 365 + yearOfEra / 4 - yearOfEra / 100 + dayOfYear
  era * daysPerEra + dayOfEra - eraStart

def ofDayNumber (n : Int) : Date :=
  let era := (n + eraStart) / daysPerEra
  let dayOfEra := (n + eraStart) % daysPerEra
  let yearOfEra := (dayOfEra - dayOfEra / 1460 + dayOfEra / 36524 - dayOfEra / 146096) / 365
  let dayOfYear := dayOfEra - (365 * yearOfEra + yearOfEra / 4 - yearOfEra / 100)
  let month := (5 * dayOfYear + 2) / 153
  let day := dayOfYear - (153 * month + 2) / 5 + 1
  let month := if month < 10 then month + 3 else month - 9
  ⟨yearOfEra + era * 400 + (if month ≤ 2 then 1 else 0), month, day⟩

example : (Date.mk 1970 1 1).dayNumber = 0 := by decide
example : (Date.mk 2000 2 29).dayNumber = 11016 := by decide
example : ofDayNumber (-719529) = ⟨-1, 12, 31⟩ := by decide

end Date

end ScopeGate
