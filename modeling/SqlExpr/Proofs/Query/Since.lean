import SqlExpr.Proofs.Calendar.Earlier
import SqlExpr.Query.Dates

/-!
# Conditions from a midnight on

The condition for the time since a span before now begins at a midnight, that
of the day in which the instant lies which is a span before now.  It cannot be
made exactly if the calendar does not reach that far.
-/

namespace SqlExpr.Scope

open SqlExpr.Calendar SqlExpr.Calendar.Timestamp

/-- Whether the condition for a span can be made and begins at the midnight of
a day. -/
def BeginsOn (scope : Scope) (column : ColumnRef) (ago : Span)
    (day : Date) : Prop :=
  scope.since column ago =
    .ok (scope.after column (timestampNode (.midnight day)))

variable {scope : Scope} {column : ColumnRef} {ago longer : Span}
  {day earlier : Date} {error : ExprError}

theorem after_midnight_inj
    (same : scope.after column (timestampNode (.midnight day)) =
      scope.after column (timestampNode (.midnight earlier))) :
    day = earlier := by
  simp only [after, Node.gtEq, timestampNode, Node.ofValue] at same
  injections

theorem beginsOn_iff (ordinary : ¬ scope.now.time.isLeapSecond) :
    scope.BeginsOn column ago day ↔
      IsDayOf day (scope.now.instant - ago.nanos) := by
  rw [← dayBefore?_eq_some_iff ordinary]
  unfold BeginsOn since
  cases scope.now.dayBefore? ago with
  | none =>
      constructor <;> intro absurd <;> cases absurd
  | some found =>
      rw [Option.some.injEq]
      constructor
      · intro same
        exact after_midnight_inj (Except.ok.inj same)
      · rintro rfl
        rfl

theorem since_eq_error_iff (ordinary : ¬ scope.now.time.isLeapSecond) :
    scope.since column ago = .error error ↔
      ¬ IsInRange (scope.now.instant - ago.nanos) ∧
        error = .durationOutOfRange ago.text := by
  rw [← dayBefore?_eq_none_iff ordinary]
  unfold since
  cases scope.now.dayBefore? ago with
  | none => simp [eq_comm]
  | some found => simp

/-- The condition for the time since a span before now is refused exactly if
the calendar does not reach to that instant.  Otherwise it begins at the
midnight that the instant is less than a day behind.  So it does not begin
later for a longer span, nor earlier at a later time. -/
theorem since_begins_at_midnight (column : ColumnRef)
    (ordinary : ¬ scope.now.time.isLeapSecond) :
    (∀ ago error, scope.since column ago = .error error ↔
      ¬ IsInRange (scope.now.instant - ago.nanos) ∧
        error = .validation
          ("duration " ++ ago.text ++ " is out of range")) ∧
    (∀ ago, IsInRange (scope.now.instant - ago.nanos) →
      ∃ day, scope.BeginsOn column ago day ∧
        (midnight day).instant ≤ scope.now.instant - ago.nanos ∧
        scope.now.instant - ago.nanos <
          (midnight day).instant + nanosPerDay) ∧
    (∀ ago longer day earlier, scope.BeginsOn column ago day →
      scope.BeginsOn column longer earlier → ago.nanos ≤ longer.nanos →
        (midnight earlier).instant ≤ (midnight day).instant) ∧
    ∀ ago now day later, ¬ now.time.isLeapSecond →
      scope.now.instant ≤ now.instant → scope.BeginsOn column ago day →
      { scope with now }.BeginsOn column ago later →
        (midnight day).instant ≤ (midnight later).instant := by
  refine ⟨?_, ?_, ?_, ?_⟩
  · intro ago error
    exact since_eq_error_iff ordinary
  · intro ago inRange
    obtain ⟨day, own⟩ := exists_isDayOf_iff.mpr inRange
    exact ⟨day, (beginsOn_iff ordinary).mpr own, own⟩
  · intro ago longer day earlier own other order
    rw [beginsOn_iff ordinary] at own other
    apply own.instant_le other
    omega
  · intro ago now day later ordinaryNow order own other
    rw [beginsOn_iff ordinary] at own
    rw [beginsOn_iff ordinaryNow] at other
    apply other.instant_le own
    dsimp only
    omega

/-- A quarter of a second before the calendar ends, a span of a quarter of a
second into the future is out of range, and a nanosecond less is not. -/
theorem since_begins_at_midnight_last_day :
    let now : Timestamp :=
      ⟨⟨262142, 12, 31, by decide⟩, ⟨23, 59, 59, 750000000, by decide⟩⟩
    let scope : Scope := ⟨{ name := "a" }, .postgres, none, now⟩
    let beyond : Span := ⟨-1, 750000000⟩
    let within : Span := ⟨-1, 750000001⟩
    ¬ now.time.isLeapSecond ∧
      scope.since (.name "c") beyond =
        .error (.validation "duration -PT0.25S is out of range") ∧
      ∃ day, scope.BeginsOn (.name "c") within day ∧
        (midnight day).instant ≤ now.instant - within.nanos := by
  intro now scope beyond within
  have ordinary : ¬ scope.now.time.isLeapSecond := by decide
  obtain ⟨refused, begins, -⟩ := since_begins_at_midnight (.name "c") ordinary
  have outside : ¬ IsInRange (scope.now.instant - beyond.nanos) := by decide
  have inside : IsInRange (scope.now.instant - within.nanos) := by decide
  have text : "duration " ++ beyond.text ++ " is out of range" =
      "duration -PT0.25S is out of range" := by decide
  obtain ⟨day, own, above, -⟩ := begins within inside
  refine ⟨ordinary, ?_, day, own, above⟩
  rw [← text]
  exact (refused beyond _).mpr ⟨outside, rfl⟩

end SqlExpr.Scope
