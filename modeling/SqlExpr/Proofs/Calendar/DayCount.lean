import SqlExpr.Proofs.Calendar.DayNumber

/-!
# Days by their numbers

The day with a given number is found from the average length of a year, which
misses the year by one at most.  There is a day for each number from that of
the calendar's first day to that of its last day, and for no other number.
-/

namespace SqlExpr.Calendar.Date

variable {number : Int} {year : Int} {date : Date}

/-! ## Years -/

/-- In the long run 400 years have 146097 days. -/
theorem daysBeforeYear_bounds (year : Int) :
    146097 * year - 396 ≤ 400 * daysBeforeYear year ∧
      400 * daysBeforeYear year ≤ 146097 * year + 699 := by
  unfold daysBeforeYear
  omega

theorem yearOfDayNumber_bounds (number : Int) :
    daysBeforeYear (yearOfDayNumber number) ≤ number ∧
      number < daysBeforeYear (yearOfDayNumber number + 1) := by
  have below := (daysBeforeYear_bounds (400 * number / 146097 - 1)).2
  have above := (daysBeforeYear_bounds (400 * number / 146097 + 1 + 1)).1
  unfold yearOfDayNumber
  dsimp only
  split
  next early =>
    rw [Int.sub_add_cancel]
    constructor
    · omega
    · exact early
  next notEarly =>
    split
    next late =>
      constructor
      · exact late
      · omega
    next notLate =>
      exact ⟨Int.not_lt.mp notEarly, Int.not_le.mp notLate⟩

theorem year_eq_yearOfDayNumber (own : date.dayNumber = number) :
    date.year = yearOfDayNumber number := by
  rw [year_eq_iff, own]
  exact yearOfDayNumber_bounds number

/-! ## Months -/

/-- The months are passed one by one until the remaining days fit in one. -/
theorem monthAndDay_spec (year : Int) (count month passed : Nat)
    (inside : daysBeforeMonth year month + passed <
      daysBeforeMonth year (month + count + 1)) :
    1 ≤ (monthAndDay year count month passed).2 ∧
      (monthAndDay year count month passed).2 ≤
        daysInMonth year (monthAndDay year count month passed).1 ∧
      daysBeforeMonth year (monthAndDay year count month passed).1 +
          ((monthAndDay year count month passed).2 - 1) =
        daysBeforeMonth year month + passed := by
  induction count generalizing month passed with
  | zero =>
      rw [Nat.add_zero, daysBeforeMonth] at inside
      simp only [monthAndDay]
      omega
  | succ count induction =>
      unfold monthAndDay
      split
      next fits =>
        dsimp only
        omega
      next longer =>
        have next : daysBeforeMonth year (month + 1) =
            daysBeforeMonth year month + daysInMonth year month := rfl
        have months : month + 1 + count + 1 = month + (count + 1) + 1 := by
          omega
        have later := induction (month + 1) (passed - daysInMonth year month)
          (by rw [months]; omega)
        rw [next] at later
        omega

/-! ## Days -/

theorem exists_day_of_bounds (inRange : IsYear year)
    (begins : daysBeforeYear year ≤ number)
    (ends : number < daysBeforeYear (year + 1)) :
    ∃ date : Date, date.dayNumber = number ∧
      ofParts? year
        (monthAndDay year 11 1 (number - daysBeforeYear year).toNat).1
        (monthAndDay year 11 1 (number - daysBeforeYear year).toNat).2 =
          some date := by
  have long := daysBeforeYear_succ year
  have none : daysBeforeMonth year 1 = 0 := rfl
  obtain ⟨first, last, days⟩ := monthAndDay_spec year 11 1
    (number - daysBeforeYear year).toNat
    (by rw [daysBeforeMonth_thirteen, none]; omega)
  have isDate : IsDate year _ _ := ⟨inRange.1, inRange.2, first, last⟩
  refine ⟨⟨year, _, _, isDate⟩, ?_, dif_pos isDate⟩
  rw [none] at days
  simp only [dayNumber]
  omega

/-- A day is found by its number. -/
theorem ofDayNumber?_eq_some_iff :
    ofDayNumber? number = some date ↔ date.dayNumber = number := by
  obtain ⟨begins, ends⟩ := yearOfDayNumber_bounds number
  by_cases inRange : IsYear (yearOfDayNumber number)
  · obtain ⟨found, own, parts⟩ := exists_day_of_bounds inRange begins ends
    have result : ofDayNumber? number = some found := parts
    rw [result, Option.some.injEq, ← own, eq_comm]
    exact dayNumber_injective.eq_iff.symm
  · have result : ofDayNumber? number = none := ofParts?_of_not_isYear inRange
    rw [result]
    constructor
    · intro found
      cases found
    · intro own
      rw [← year_eq_yearOfDayNumber own] at inRange
      exact absurd date.isYear inRange

/-- The days of the calendar are counted without a gap. -/
theorem exists_dayNumber_iff :
    (∃ date : Date, date.dayNumber = number) ↔
      daysBeforeYear minYear ≤ number ∧
        number < daysBeforeYear (maxYear + 1) := by
  constructor
  · rintro ⟨date, own⟩
    obtain ⟨begins, ends⟩ := year_eq_iff.mp (Eq.refl date.year)
    rw [own] at begins ends
    obtain ⟨first, last⟩ := date.isYear
    constructor
    · have order : ¬ daysBeforeYear date.year < daysBeforeYear minYear := by
        rw [daysBeforeYear_lt_iff]
        exact Int.not_lt.mpr first
      omega
    · have order :
          ¬ daysBeforeYear (maxYear + 1) < daysBeforeYear (date.year + 1) := by
        rw [daysBeforeYear_lt_iff]
        omega
      omega
  · rintro ⟨first, last⟩
    obtain ⟨begins, ends⟩ := yearOfDayNumber_bounds number
    have notBefore := daysBeforeYear_lt_iff.mp (first.trans_lt ends)
    have notAfter := daysBeforeYear_lt_iff.mp (begins.trans_lt last)
    have inRange : IsYear (yearOfDayNumber number) := by
      constructor <;> omega
    obtain ⟨date, own, _⟩ := exists_day_of_bounds inRange begins ends
    exact ⟨date, own⟩

end SqlExpr.Calendar.Date
