import SqlExpr.Calendar.Date
import SqlExpr.Calendar.Span

/-!
# Timestamps

A date with a time of day.  A leap second is the second 59 of a minute with a
billion or more nanoseconds, and is written as the second 60.  Times are kept
to the nanosecond and written to the microsecond.
-/

namespace SqlExpr.Calendar

open SqlExpr.Number

def secondsPerDay : Nat := 86400

def nanosPerDay : Nat := secondsPerDay * nanosPerSecond

/-- Whether hour, minute, second and nanosecond name a time of day.  Only the
last second of a minute may be longer than a billion nanoseconds.  A billion or
more nanoseconds behind any other second, as a caller may put there who replaces
the nanoseconds of a time by those of a leap second, are left out. -/
def IsTime (hour minute second nanosecond : Nat) : Prop :=
  hour < 24 ∧ minute < 60 ∧ second < 60 ∧
    (nanosecond < nanosPerSecond ∨
      (second = 59 ∧ nanosecond < 2 * nanosPerSecond))

instance (hour minute second nanosecond : Nat) :
    Decidable (IsTime hour minute second nanosecond) :=
  inferInstanceAs (Decidable (_ ∧ _))

/-- A time of day. -/
structure TimeOfDay where
  hour : Nat
  minute : Nat
  second : Nat
  nanosecond : Nat
  isTime : IsTime hour minute second nanosecond
  deriving DecidableEq, Repr

namespace TimeOfDay

def ofParts? (hour minute second nanosecond : Nat) : Option TimeOfDay :=
  if isTime : IsTime hour minute second nanosecond then
    some ⟨hour, minute, second, nanosecond, isTime⟩
  else
    none

/-- The first instant of a day. -/
def midnight : TimeOfDay := ⟨0, 0, 0, 0, by decide⟩

/-- The last microsecond of a day. -/
def endOfDay : TimeOfDay := ⟨23, 59, 59, 999999000, by decide⟩

/-- The seconds from midnight to the beginning of the time's second. -/
def secondOfDay (time : TimeOfDay) : Nat :=
  (time.hour * 60 + time.minute) * 60 + time.second

def isLeapSecond (time : TimeOfDay) : Bool :=
  nanosPerSecond ≤ time.nanosecond

/-- The microseconds of the time's second. -/
def microsecond (time : TimeOfDay) : Nat :=
  time.nanosecond % nanosPerSecond / 1000

/-- How many days later an instant lies that is `shift` nanoseconds later.  A
shift that stays within a leap second stays on its day; one that leaves it
forwards counts it as the second before it. -/
def daysAfter (time : TimeOfDay) (shift : Int) : Int :=
  let passed : Int := time.nanosecond + shift
  let start : Int := time.secondOfDay * nanosPerSecond
  if !time.isLeapSecond || passed < nanosPerSecond then
    (start + passed) / nanosPerDay
  else if passed < 2 * nanosPerSecond then
    0
  else
    (start + passed - nanosPerSecond) / nanosPerDay

/-- Hour, minute and second, and the microseconds unless they are zero. -/
def text (time : TimeOfDay) : String :=
  let second := if time.isLeapSecond then time.second + 1 else time.second
  paddedText 2 time.hour ++ ":" ++ paddedText 2 time.minute ++ ":" ++
    paddedText 2 second ++
    (if time.microsecond = 0 then ""
     else "." ++ Span.fractionText 6 time.microsecond)

end TimeOfDay

/-- A date with a time of day. -/
structure Timestamp where
  date : Date
  time : TimeOfDay
  deriving DecidableEq, Repr

namespace Timestamp

/-- The timestamp with the given parts, if they name a date and a time. -/
def ofParts? (year : Int) (month day hour minute second nanosecond : Nat) :
    Option Timestamp := do
  return ⟨← Date.ofParts? year month day,
    ← TimeOfDay.ofParts? hour minute second nanosecond⟩

def midnight (date : Date) : Timestamp := ⟨date, .midnight⟩

def endOfDay (date : Date) : Timestamp := ⟨date, .endOfDay⟩

/-- The day of the instant that lies a span before a timestamp, if the calendar
reaches that far. -/
def dayBefore? (now : Timestamp) (ago : Span) : Option Date :=
  Date.ofDayNumber? (now.date.dayNumber + now.time.daysAfter (-ago.nanos))

/-- The date and the time of day, separated by a space. -/
def text (timestamp : Timestamp) : String :=
  timestamp.date.text ++ " " ++ timestamp.time.text

end Timestamp

end SqlExpr.Calendar
