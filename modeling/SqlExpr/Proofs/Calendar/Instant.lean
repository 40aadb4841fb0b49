import SqlExpr.Proofs.Calendar.TimestampText

/-!
# Instants

A timestamp is an instant, counted in nanoseconds.  The instants of a day that
are whole microseconds lie between its midnight and its last microsecond, and
those of the days from one to another between the midnight of the first and the
last microsecond of the last.
-/

namespace SqlExpr.Calendar

/-- The nanoseconds from the beginning of the year zero. -/
def Timestamp.instant (timestamp : Timestamp) : Int :=
  (timestamp.date.dayNumber * secondsPerDay + timestamp.time.secondOfDay) *
    nanosPerSecond + timestamp.time.nanosecond

/-- The instant that the numbers of a timestamp mean. -/
def TimestampFields.instant (fields : TimestampFields) : Int :=
  let days : Int := Date.daysBeforeYear fields.year +
    Date.daysBeforeMonth fields.year fields.month + (fields.day - 1 : Nat)
  let seconds : Int := (fields.hour * 60 + fields.minute) * 60 + fields.second
  (days * secondsPerDay + seconds) * nanosPerSecond + fields.microsecond * 1000

namespace Timestamp

variable {timestamp : Timestamp} {date first last : Date}

/-- What is written of a timestamp lacks the nanoseconds within a
microsecond. -/
theorem instant_fields (timestamp : Timestamp) :
    timestamp.fields.instant =
      timestamp.instant - (timestamp.time.nanosecond % 1000 : Nat) := by
  have days : Date.daysBeforeYear timestamp.date.year +
      Date.daysBeforeMonth timestamp.date.year timestamp.date.month +
        (timestamp.date.day - 1 : Nat) = timestamp.date.dayNumber := rfl
  obtain ⟨-, -, -, nanosecond⟩ := timestamp.time.isTime
  simp only [TimestampFields.instant, fields, instant, days,
    TimeOfDay.writtenSecond, TimeOfDay.isLeapSecond, TimeOfDay.microsecond,
    TimeOfDay.secondOfDay, nanosPerSecond, secondsPerDay] at nanosecond ⊢
  by_cases leap : 1000000000 ≤ timestamp.time.nanosecond
  · simp only [leap, decide_true, if_true]
    omega
  · simp only [leap, decide_false, Bool.false_eq_true, if_false]
    omega

/-- A timestamp with whole microseconds that does not lie in a leap second. -/
structure IsExact (timestamp : Timestamp) : Prop where
  ordinary : timestamp.time.nanosecond < nanosPerSecond
  whole : timestamp.time.nanosecond % 1000 = 0

theorem isExact_midnight (date : Date) : (midnight date).IsExact := by
  have nanosecond : (midnight date).time.nanosecond = 0 := rfl
  constructor
  · rw [nanosecond, nanosPerSecond]
    omega
  · rw [nanosecond]

theorem isExact_endOfDay (date : Date) : (endOfDay date).IsExact := by
  have nanosecond : (endOfDay date).time.nanosecond = 999999000 := rfl
  constructor
  · rw [nanosecond, nanosPerSecond]
    omega
  · rw [nanosecond]

theorem IsExact.instant_fields (exact : timestamp.IsExact) :
    timestamp.fields.instant = timestamp.instant := by
  rw [Timestamp.instant_fields, exact.whole]
  exact Int.sub_zero _

theorem instant_midnight (date : Date) :
    (midnight date).instant = date.dayNumber * 86400000000000 := by
  simp only [instant, midnight, TimeOfDay.midnight, TimeOfDay.secondOfDay,
    nanosPerSecond, secondsPerDay]
  omega

theorem instant_endOfDay (date : Date) :
    (endOfDay date).instant =
      (date.dayNumber + 1) * 86400000000000 - 1000 := by
  simp only [instant, endOfDay, TimeOfDay.endOfDay, TimeOfDay.secondOfDay,
    nanosPerSecond, secondsPerDay]
  omega

/-- There is no whole microsecond between the last one of a day and the next
midnight. -/
theorem IsExact.instant_bounds (exact : timestamp.IsExact) :
    timestamp.date.dayNumber * 86400000000000 ≤ timestamp.instant ∧
      timestamp.instant ≤
        (timestamp.date.dayNumber + 1) * 86400000000000 - 1000 := by
  obtain ⟨ordinary, whole⟩ := exact
  obtain ⟨hour, minute, second, -⟩ := timestamp.time.isTime
  simp only [instant, TimeOfDay.secondOfDay, nanosPerSecond, secondsPerDay]
    at ordinary ⊢
  omega

/-- The timestamps from the midnight of a day to the last microsecond of
another are those on the days from the one to the other. -/
theorem IsExact.between_iff (exact : timestamp.IsExact) :
    (midnight first).instant ≤ timestamp.instant ∧
        timestamp.instant ≤ (endOfDay last).instant ↔
      first.dayNumber ≤ timestamp.date.dayNumber ∧
        timestamp.date.dayNumber ≤ last.dayNumber := by
  obtain ⟨above, below⟩ := exact.instant_bounds
  rw [instant_midnight, instant_endOfDay]
  omega

/-- The days from the first of January to the last of December are those of the
year. -/
theorem IsExact.between_iff_year (exact : timestamp.IsExact) {year : Int}
    (begins : first.dayNumber = Date.daysBeforeYear year)
    (ends : last.dayNumber + 1 = Date.daysBeforeYear (year + 1)) :
    (midnight first).instant ≤ timestamp.instant ∧
        timestamp.instant ≤ (endOfDay last).instant ↔
      timestamp.date.year = year := by
  rw [exact.between_iff, Date.year_eq_iff, begins]
  omega

end Timestamp

end SqlExpr.Calendar
