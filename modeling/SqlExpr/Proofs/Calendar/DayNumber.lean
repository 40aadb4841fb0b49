import Mathlib.Order.Monotone.Basic
import SqlExpr.Calendar.Date

/-!
# Numbers of days

The days of a month follow one another without a gap, and so do the months of a
year and the years.  Therefore a day is known by its number, and the days of a
year are those whose numbers lie between that of its first day and that of the
first day of the next year.
-/

namespace SqlExpr.Calendar

def daysInYear (year : Int) : Nat := if isLeapYear year then 366 else 365

namespace Date

theorem daysBeforeYear_succ (year : Int) :
    daysBeforeYear (year + 1) = daysBeforeYear year + daysInYear year := by
  have leap : isLeapYear year ↔
      year % 4 = 0 ∧ (year % 100 ≠ 0 ∨ year % 400 = 0) := by
    simp [isLeapYear]
  unfold daysBeforeYear daysInYear
  split
  next isLeap =>
    rw [leap] at isLeap
    omega
  next isCommon =>
    rw [leap] at isCommon
    omega

theorem daysBeforeYear_lt_succ (year : Int) :
    daysBeforeYear year < daysBeforeYear (year + 1) := by
  have long : 0 < daysInYear year := by
    unfold daysInYear
    split <;> decide
  rw [daysBeforeYear_succ]
  omega

theorem daysBeforeYear_lt_iff {year other : Int} :
    daysBeforeYear year < daysBeforeYear other ↔ year < other :=
  (strictMono_int_of_lt_succ daysBeforeYear_lt_succ).lt_iff_lt

theorem daysBeforeMonth_monotone (year : Int) :
    Monotone (daysBeforeMonth year) :=
  monotone_nat_of_le_succ fun _ => Nat.le_add_right ..

theorem daysBeforeMonth_thirteen (year : Int) :
    daysBeforeMonth year 13 = daysInYear year := by
  simp only [daysBeforeMonth, daysInMonth, daysInYear]
  split <;> rfl

theorem daysInMonth_of_gt {month : Nat} (beyond : 12 < month) (year : Int) :
    daysInMonth year month = 0 := by
  unfold daysInMonth
  split <;> omega

theorem daysInMonth_le (year : Int) (month : Nat) :
    daysInMonth year month ≤ 31 := by
  unfold daysInMonth
  repeat' split
  all_goals decide

theorem month_le_twelve (date : Date) : date.month ≤ 12 := by
  obtain ⟨-, -, first, last⟩ := date.isDate
  by_contra beyond
  rw [daysInMonth_of_gt (Nat.lt_of_not_le beyond)] at last
  omega

theorem one_le_month (date : Date) : 1 ≤ date.month := by
  obtain ⟨-, -, first, last⟩ := date.isDate
  by_contra none
  have zero : date.month = 0 := by omega
  have days : daysInMonth date.year 0 = 0 := rfl
  rw [zero, days] at last
  omega

/-- The days that precede a day in its year. -/
def daysBefore (date : Date) : Nat :=
  daysBeforeMonth date.year date.month + (date.day - 1)

theorem dayNumber_eq (date : Date) :
    date.dayNumber = daysBeforeYear date.year + date.daysBefore := by
  unfold dayNumber daysBefore
  omega

/-- A day lies before the end of its month. -/
theorem daysBefore_lt_month (date : Date) :
    date.daysBefore < daysBeforeMonth date.year (date.month + 1) := by
  obtain ⟨-, -, first, last⟩ := date.isDate
  rw [daysBefore, daysBeforeMonth]
  omega

theorem daysBefore_lt_year (date : Date) :
    date.daysBefore < daysInYear date.year := by
  have within := daysBeforeMonth_monotone date.year
    (Nat.succ_le_succ date.month_le_twelve)
  rw [← daysBeforeMonth_thirteen]
  exact date.daysBefore_lt_month.trans_le within

variable {date other : Date} {year : Int}

/-- A day lies in a year exactly if its number lies between those of the first
days of the year and of the next one. -/
theorem year_eq_iff :
    date.year = year ↔
      daysBeforeYear year ≤ date.dayNumber ∧
        date.dayNumber < daysBeforeYear (year + 1) := by
  have inside := date.daysBefore_lt_year
  have next := daysBeforeYear_succ date.year
  rw [dayNumber_eq]
  constructor
  · rintro rfl
    omega
  · rintro ⟨above, below⟩
    have notAfter : year < date.year + 1 := by
      apply daysBeforeYear_lt_iff.mp
      omega
    have notBefore : date.year < year + 1 := by
      apply daysBeforeYear_lt_iff.mp
      omega
    omega

/-- In one year, a day in a later month comes later. -/
theorem month_le_of_daysBefore_le (years : date.year = other.year)
    (days : date.daysBefore ≤ other.daysBefore) :
    date.month ≤ other.month := by
  by_contra later
  have order : other.month + 1 ≤ date.month := Nat.lt_of_not_le later
  have months := daysBeforeMonth_monotone other.year order
  have inside := other.daysBefore_lt_month
  have begins : daysBeforeMonth date.year date.month ≤ date.daysBefore :=
    Nat.le_add_right ..
  rw [years] at begins
  omega

theorem eq_of_daysBefore_eq (years : date.year = other.year)
    (daysBefore : date.daysBefore = other.daysBefore) : date = other := by
  have months : date.month = other.month :=
    Nat.le_antisymm (month_le_of_daysBefore_le years daysBefore.le)
      (month_le_of_daysBefore_le years.symm daysBefore.ge)
  have first := date.isDate.2.2.1
  have otherFirst := other.isDate.2.2.1
  have days : date.day = other.day := by
    simp only [Date.daysBefore, years, months] at daysBefore
    omega
  cases date
  cases other
  cases years
  cases months
  cases days
  rfl

theorem dayNumber_injective : Function.Injective dayNumber := by
  intro date other same
  have years : date.year = other.year := by
    rw [year_eq_iff, same, ← year_eq_iff]
  apply eq_of_daysBefore_eq years
  rw [dayNumber_eq, dayNumber_eq, years] at same
  omega

end Date

/-! ## The days of a year -/

/-- The years of the calendar. -/
def IsYear (year : Int) : Prop := minYear ≤ year ∧ year ≤ maxYear

theorem Date.isYear (date : Date) : IsYear date.year :=
  ⟨date.isDate.1, date.isDate.2.1⟩

namespace IsYear

variable {year : Int}

/-- The first of January. -/
def firstDay (inRange : IsYear year) : Date :=
  ⟨year, 1, 1, inRange.1, inRange.2, Nat.le_refl 1, Nat.le_add_left 1 30⟩

/-- The last of December. -/
def lastDay (inRange : IsYear year) : Date :=
  ⟨year, 12, 31, inRange.1, inRange.2, Nat.le_add_left 1 30, Nat.le_refl 31⟩

theorem ofParts?_firstDay (inRange : IsYear year) :
    Date.ofParts? year 1 1 = some inRange.firstDay :=
  dif_pos inRange.firstDay.isDate

theorem ofParts?_lastDay (inRange : IsYear year) :
    Date.ofParts? year 12 31 = some inRange.lastDay :=
  dif_pos inRange.lastDay.isDate

theorem dayNumber_firstDay (inRange : IsYear year) :
    inRange.firstDay.dayNumber = Date.daysBeforeYear year := by
  have days : inRange.firstDay.daysBefore = 0 := rfl
  rw [Date.dayNumber_eq, days]
  exact Int.add_zero _

theorem dayNumber_lastDay (inRange : IsYear year) :
    inRange.lastDay.dayNumber + 1 = Date.daysBeforeYear (year + 1) := by
  have months : Date.daysBeforeMonth year 13 =
      Date.daysBeforeMonth year 12 + 31 := rfl
  have days : inRange.lastDay.daysBefore =
      Date.daysBeforeMonth year 12 + 30 := rfl
  have own : inRange.lastDay.year = year := rfl
  rw [Date.dayNumber_eq, own, days, Date.daysBeforeYear_succ,
    ← Date.daysBeforeMonth_thirteen, months]
  omega

end IsYear

theorem Date.ofParts?_of_not_isYear {year : Int} {month day : Nat}
    (outside : ¬ IsYear year) : ofParts? year month day = none := by
  apply dif_neg
  rintro ⟨above, below, -⟩
  exact outside ⟨above, below⟩

end SqlExpr.Calendar
