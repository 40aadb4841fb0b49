import Mathlib.Data.Int.Order.Basic
import SqlExpr.Proofs.Calendar.Instant
import SqlExpr.Proofs.Query.Column
import SqlExpr.Query.Dates

/-!
# Days and years

The condition that a timestamp lies on a day, and that it lies in a year, as
they are read from their texts.  Among the timestamps with whole microseconds
the former is true of those on the day and the latter of those in the year.
Thus the days, and the years, divide time without a gap and without an overlap.
-/

namespace SqlExpr

open SqlExpr.Calendar SqlExpr.Grammar SqlExpr.Lexis SqlExpr.Number

/-- Columns of timestamps.  They hold instants, and a literal means the instant
that its numbers mean. -/
def Grammar.timestamps : Schema where
  Carrier _ := Int
  order _ := inferInstance
  read? _ literal :=
    match literal with
    | [.text text] =>
      (TimestampFields.read? text).map TimestampFields.instant
    | _ => none

namespace Grammar.timestamps

variable {config : Config} {row : timestamps.Row} {column : List Token}
  {operator : BinaryOperator} {timestamp bound : Timestamp}
  {first last : Date}

theorem isWritable (timestamp : Timestamp) :
    (Value.timestamp timestamp).IsWritable := trivial

theorem compare?_timestamp (exact : bound.IsExact) :
    row.compare? operator column
        ((Part.value (.timestamp bound)).tokens config) =
      operator.truth? (row column) bound.instant := by
  apply Schema.Row.compare?_of_read?
  rw [Config.tokens_quoted rfl]
  change (TimestampFields.read? bound.text).map _ = _
  rw [Timestamp.read?_text, Option.map_some, exact.instant_fields]
  rfl

theorem within?_days (holds : row column = some timestamp.instant)
    (first last : Date) :
    row.within? column
        ((Part.value (.timestamp (.midnight first))).tokens config)
        ((Part.value (.timestamp (.endOfDay last))).tokens config) =
      some (.ofBool ((Timestamp.midnight first).instant ≤ timestamp.instant ∧
        timestamp.instant ≤ (Timestamp.endOfDay last).instant)) := by
  unfold Schema.Row.within?
  rw [compare?_timestamp (Timestamp.isExact_midnight first),
    compare?_timestamp (Timestamp.isExact_endOfDay last), holds,
    Bool.decide_and, ← Truth.ofBool_and]
  rfl

end Grammar.timestamps

namespace Scope

variable {scope : Scope} {row : timestamps.Row} {date : Date} {year : Int}

/-- Whether a condition could be made and is true of a row. -/
def Holds (scope : Scope) (row : timestamps.Row)
    (made : ExprResult Node) : Prop :=
  ∃ node, made = .ok node ∧ scope.config.truth? row node = some .yes

theorem holds_iff {made : ExprResult Node} {property : Prop}
    [Decidable property]
    (meaning : ∃ node, made = .ok node ∧
      scope.config.truth? row node = some (.ofBool property)) :
    scope.Holds row made ↔ property := by
  obtain ⟨node, rfl, truth⟩ := meaning
  constructor
  · rintro ⟨_, ⟨⟩, holds⟩
    rw [truth] at holds
    simpa using holds
  · intro true
    refine ⟨node, rfl, truth.trans ?_⟩
    rw [decide_eq_true true]
    rfl

/-! ## Years -/

theorem inYear_of_isYear (column : ColumnRef) (inRange : IsYear year) :
    scope.inYear column year =
      .ok (scope.within column (timestampNode (.midnight inRange.firstDay))
        (timestampNode (.endOfDay inRange.lastDay))) := by
  unfold inYear
  rw [inRange.ofParts?_firstDay, inRange.ofParts?_lastDay]

theorem inYear_of_not_isYear (column : ColumnRef) (outside : ¬ IsYear year) :
    scope.inYear column year =
      .error (.yearOutOfRange (integerText year)) := by
  unfold inYear
  rw [Date.ofParts?_of_not_isYear outside]

/-- There is a condition for each year of the calendar, and for no other
year. -/
theorem inYear_eq_error_iff (column : ColumnRef) {error : ExprError} :
    scope.inYear column year = .error error ↔
      ¬ IsYear year ∧ error = .yearOutOfRange (integerText year) := by
  by_cases inRange : IsYear year
  · simp [inYear_of_isYear column inRange, inRange]
  · simp [inYear_of_not_isYear column inRange, inRange, eq_comm]

namespace NamedColumn

variable (column : scope.NamedColumn) {timestamp : Timestamp}
  (exact : timestamp.IsExact)
  (holds : row column.tokens = some timestamp.instant)
include exact holds

/-- What is said of a timestamp in a year is whether its date lies there. -/
theorem truth?_inYear (inRange : IsYear year) :
    ∃ node, scope.inYear column.column year = .ok node ∧
      scope.config.truth? row node =
        some (.ofBool (timestamp.date.year = year)) := by
  refine ⟨_, inYear_of_isYear column.column inRange, ?_⟩
  unfold within timestampNode
  rw [column.truth?_between (timestamps.isWritable _)
    (timestamps.isWritable _), timestamps.within?_days holds]
  simp only [exact.between_iff_year inRange.dayNumber_firstDay
    inRange.dayNumber_lastDay]

/-- A condition for a year is true of the timestamps in that year. -/
theorem holds_inYear_iff :
    scope.Holds row (scope.inYear column.column year) ↔
      timestamp.date.year = year := by
  by_cases inRange : IsYear year
  · exact holds_iff (column.truth?_inYear exact holds inRange)
  · rw [inYear_of_not_isYear column.column inRange]
    constructor
    · rintro ⟨_, ⟨⟩, _⟩
    · rintro rfl
      exact absurd timestamp.date.isYear inRange

/-! ## Days -/

/-- What is said of a timestamp on a day is whether that day is its date. -/
theorem truth?_onDay {day : DayRef} (resolves : day.resolve = .ok date) :
    ∃ node, scope.onDay column.column day = .ok node ∧
      scope.config.truth? row node =
        some (.ofBool (timestamp.date = date)) := by
  unfold onDay
  rw [resolves]
  refine ⟨_, rfl, ?_⟩
  unfold after before timestampNode
  have only : date.dayNumber ≤ timestamp.date.dayNumber ∧
      timestamp.date.dayNumber ≤ date.dayNumber ↔ timestamp.date = date := by
    rw [← Date.dayNumber_injective.eq_iff]
    omega
  rw [column.truth?_gtEq_and_ltEq (timestamps.isWritable _)
    (timestamps.isWritable _) row rfl rfl, timestamps.within?_days holds]
  simp only [exact.between_iff, only]

theorem holds_onDay_iff :
    scope.Holds row (scope.onDay column.column (.date date)) ↔
      timestamp.date = date := by
  have resolves : (DayRef.date date).resolve = .ok date := rfl
  exact holds_iff (column.truth?_onDay exact holds resolves)

/-- The days divide the timestamps with whole microseconds, and so do the
years: a condition for a day is true of those on that day, and a condition for
a year of those in that year.  There is one for every year of the calendar. -/
theorem periods_partition :
    (∀ day date, day.resolve = .ok date →
      ∃ node, scope.onDay column.column day = .ok node ∧
        scope.config.truth? row node =
          some (.ofBool (timestamp.date = date))) ∧
    (∀ year, minYear ≤ year → year ≤ maxYear →
      ∃ node, scope.inYear column.column year = .ok node ∧
        scope.config.truth? row node =
          some (.ofBool (timestamp.date.year = year))) ∧
    (∀ year error, scope.inYear column.column year = .error error ↔
      ¬ (minYear ≤ year ∧ year ≤ maxYear) ∧
        error = .validation
          ("year " ++ integerText year ++ " is out of range")) ∧
    (∃! date, scope.Holds row (scope.onDay column.column (.date date))) ∧
    (∃! year, scope.Holds row (scope.inYear column.column year)) ∧
    ∀ year, scope.Holds row (scope.inYear column.column year) ↔
      ∃ date : Date, date.year = year ∧
        scope.Holds row (scope.onDay column.column (.date date)) := by
  have onDay (date : Date) :
      scope.Holds row (scope.onDay column.column (.date date)) ↔
        timestamp.date = date :=
    column.holds_onDay_iff exact holds
  have inYear (year : Int) :
      scope.Holds row (scope.inYear column.column year) ↔
        timestamp.date.year = year :=
    column.holds_inYear_iff exact holds
  simp only [onDay, inYear]
  refine ⟨?_, ?_, ?_, ?_, ?_, ?_⟩
  · intro day date resolves
    exact column.truth?_onDay exact holds resolves
  · intro year above below
    exact column.truth?_inYear exact holds ⟨above, below⟩
  · intro year error
    exact inYear_eq_error_iff column.column
  · exact existsUnique_eq'
  · exact existsUnique_eq'
  · intro year
    constructor
    · rintro rfl
      exact ⟨timestamp.date, rfl, rfl⟩
    · rintro ⟨_, rfl, rfl⟩
      rfl

end NamedColumn

/-- The last microsecond of a leap day does not lie on the next day. -/
theorem NamedColumn.periods_partition_leap_day :
    let day : Date := ⟨-4, 2, 29, by decide⟩
    let next : Date := ⟨-4, 3, 1, by decide⟩
    let timestamp : Timestamp := .endOfDay day
    let scope : Scope := ⟨{ name := "a" }, .postgres, none, timestamp⟩
    let row : timestamps.Row := fun _ => some timestamp.instant
    let made (day : Date) := scope.onDay (.name "c") (.date day)
    scope.Holds row (made day) ∧ ¬ scope.Holds row (made next) ∧
      scope.Holds row (scope.inYear (.name "c") (-4)) := by
  intro day next timestamp scope row made
  let column : scope.NamedColumn :=
    .ofName scope "c" ⟨by rintro _ ⟨⟩; decide, by decide⟩
  have exact : timestamp.IsExact := Timestamp.isExact_endOfDay day
  have holds : row column.tokens = some timestamp.instant := rfl
  obtain ⟨onDay, inYear, -⟩ := column.periods_partition exact holds
  have own := onDay (.date day) day rfl
  have other := onDay (.date next) next rfl
  have year := inYear (-4) (by decide) (by decide)
  refine ⟨(holds_iff own).mpr rfl, ?_, (holds_iff year).mpr rfl⟩
  intro onNext
  exact absurd ((holds_iff other).mp onNext) (by decide)

end Scope

end SqlExpr
