import SqlExpr.Number.Digits

/-!
# Dates

Days of the proleptic Gregorian calendar, from the year -262143 to the year
262142.  Besides its year, month and day a date has a day number, which counts
the days from the first of January of the year zero.
-/

namespace SqlExpr.Calendar

open SqlExpr.Number

def minYear : Int := -262143

def maxYear : Int := 262142

def isLeapYear (year : Int) : Bool :=
  year % 4 == 0 && (year % 100 != 0 || year % 400 == 0)

/-- The number of days of a month, and zero if there is no such month. -/
def daysInMonth (year : Int) : Nat → Nat
  | 2 => if isLeapYear year then 29 else 28
  | 4 | 6 | 9 | 11 => 30
  | 1 | 3 | 5 | 7 | 8 | 10 | 12 => 31
  | _ => 0

/-- Whether a year, month and day name a day of the calendar. -/
def IsDate (year : Int) (month day : Nat) : Prop :=
  minYear ≤ year ∧ year ≤ maxYear ∧ 1 ≤ day ∧ day ≤ daysInMonth year month

instance (year : Int) (month day : Nat) : Decidable (IsDate year month day) :=
  inferInstanceAs (Decidable (_ ∧ _))

/-- A day of the calendar. -/
structure Date where
  year : Int
  month : Nat
  day : Nat
  isDate : IsDate year month day
  deriving DecidableEq, Repr

namespace Date

/-- The day with the given year, month and day, if there is one. -/
def ofParts? (year : Int) (month day : Nat) : Option Date :=
  if isDate : IsDate year month day then some ⟨year, month, day, isDate⟩
  else none

/-- The days from the first of January of the year zero to that of `year`. -/
def daysBeforeYear (year : Int) : Int :=
  365 * year + (year - 1) / 4 - (year - 1) / 100 + (year - 1) / 400 + 1

/-- The days of a year that precede a month. -/
def daysBeforeMonth (year : Int) : Nat → Nat
  | 0 => 0
  | month + 1 => daysBeforeMonth year month + daysInMonth year month

/-- The number of a day, counted from the first of January of the year zero. -/
def dayNumber (date : Date) : Int :=
  daysBeforeYear date.year + daysBeforeMonth date.year date.month +
    (date.day - 1 : Nat)

/-- The year in which the day with the given number lies. -/
def yearOfDayNumber (number : Int) : Int :=
  let guess := 400 * number / 146097
  if number < daysBeforeYear guess then guess - 1
  else if daysBeforeYear (guess + 1) ≤ number then guess + 1
  else guess

/-- The month and day that lie a number of days after the first of a month,
looking at no more than `count` further months. -/
def monthAndDay (year : Int) : Nat → Nat → Nat → Nat × Nat
  | 0, month, passed => (month, passed + 1)
  | count + 1, month, passed =>
    if passed < daysInMonth year month then (month, passed + 1)
    else monthAndDay year count (month + 1) (passed - daysInMonth year month)

/-- The day with a given number, if it lies in the calendar's range. -/
def ofDayNumber? (number : Int) : Option Date :=
  let year := yearOfDayNumber number
  let passed := (number - daysBeforeYear year).toNat
  let (month, day) := monthAndDay year 11 1 passed
  ofParts? year month day

/-- A year with at least four digits; years outside of 0 to 9999 are signed. -/
def yearText (year : Int) : String :=
  if year < 0 then "-" ++ paddedText 4 year.natAbs
  else if 9999 < year then "+" ++ naturalText year.toNat
  else paddedText 4 year.toNat

/-- Year, month and day joined by hyphens. -/
def text (date : Date) : String :=
  yearText date.year ++ "-" ++ paddedText 2 date.month ++ "-" ++
    paddedText 2 date.day

end Date

end SqlExpr.Calendar
