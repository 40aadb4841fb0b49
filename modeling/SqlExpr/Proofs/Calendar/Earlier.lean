import SqlExpr.Proofs.Calendar.DayCount
import SqlExpr.Proofs.Calendar.Instant

/-!
# Earlier instants

The day of the instant that lies a span before a timestamp is the one whose
midnight comes last before that instant.  There is such a day exactly if the
instant does not lie before the first one of the calendar or after the last.
-/

namespace SqlExpr.Calendar.Timestamp

/-- The first instant of the calendar. -/
def first : Timestamp := midnight ⟨minYear, 1, 1, by decide⟩

/-- The last nanosecond of the calendar. -/
def last : Timestamp :=
  ⟨⟨maxYear, 12, 31, by decide⟩, ⟨23, 59, 59, 999999999, by decide⟩⟩

/-- Whether an instant, in nanoseconds, lies in the calendar's range. -/
def IsInRange (instant : Int) : Prop :=
  first.instant ≤ instant ∧ instant ≤ last.instant

instance (instant : Int) : Decidable (IsInRange instant) :=
  inferInstanceAs (Decidable (_ ∧ _))

/-- Whether a day is the one in which an instant lies. -/
def IsDayOf (day : Date) (instant : Int) : Prop :=
  (midnight day).instant ≤ instant ∧
    instant < (midnight day).instant + nanosPerDay

variable {now : Timestamp} {ago : Span} {day earlier : Date}
  {instant before : Int}

theorem isDayOf_iff : IsDayOf day instant ↔
    day.dayNumber = instant / nanosPerDay := by
  have length : (nanosPerDay : Int) = 86400000000000 := rfl
  rw [IsDayOf, instant_midnight, length]
  omega

/-- The days come in the order of the instants in them. -/
theorem IsDayOf.instant_le (own : IsDayOf day instant)
    (other : IsDayOf earlier before) (order : before ≤ instant) :
    (midnight earlier).instant ≤ (midnight day).instant := by
  have length : (nanosPerDay : Int) = 86400000000000 := rfl
  rw [isDayOf_iff, length] at own other
  rw [instant_midnight, instant_midnight]
  omega

theorem exists_isDayOf_iff :
    (∃ day, IsDayOf day instant) ↔ IsInRange instant := by
  have length : (nanosPerDay : Int) = 86400000000000 := rfl
  have begins : first.instant =
      Date.daysBeforeYear minYear * 86400000000000 := by decide
  have ends : last.instant =
      Date.daysBeforeYear (maxYear + 1) * 86400000000000 - 1 := by decide
  simp only [isDayOf_iff, Date.exists_dayNumber_iff]
  rw [IsInRange, begins, ends, length]
  omega

/-- Unless it is in a leap second, a timestamp is as far from the midnight of
another day as the instants are apart. -/
theorem daysAfter_of_ordinary (ordinary : ¬ now.time.isLeapSecond)
    (shift : Int) :
    now.date.dayNumber + now.time.daysAfter shift =
      (now.instant + shift) / nanosPerDay := by
  have length : (nanosPerDay : Int) = 86400000000000 := rfl
  have plain := eq_false_of_ne_true ordinary
  unfold TimeOfDay.daysAfter instant
  simp only [plain, Bool.not_false, Bool.true_or, if_true]
  rw [length, nanosPerSecond, secondsPerDay]
  omega

/-- The day of the instant that lies a span before a timestamp. -/
theorem dayBefore?_eq_some_iff (ordinary : ¬ now.time.isLeapSecond) :
    now.dayBefore? ago = some day ↔
      IsDayOf day (now.instant - ago.nanos) := by
  unfold dayBefore?
  rw [daysAfter_of_ordinary ordinary, Date.ofDayNumber?_eq_some_iff,
    isDayOf_iff, Int.sub_eq_add_neg]

theorem dayBefore?_eq_none_iff (ordinary : ¬ now.time.isLeapSecond) :
    now.dayBefore? ago = none ↔ ¬ IsInRange (now.instant - ago.nanos) := by
  rw [Option.eq_none_iff_forall_ne_some, ← exists_isDayOf_iff, not_exists]
  simp only [ne_eq, dayBefore?_eq_some_iff ordinary]

end SqlExpr.Calendar.Timestamp
