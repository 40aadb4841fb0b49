import Mathlib.Data.List.Basic
import SqlExpr.Proofs.Calendar.DayText
import SqlExpr.Proofs.Value.Literal
import SqlExpr.Query.Argument

/-!
# Days of dates and timestamps

The literal of a date or of a timestamp begins with its day.  When this text is
given as a day, it means that day exactly if the year has four digits and no
sign.
-/

namespace SqlExpr

open SqlExpr.Calendar SqlExpr.Text

/-- The day of a date or of a timestamp. -/
def Value.day? : Value → Option Date
  | .date day => some day
  | .timestamp instant | .timestampTz instant => some instant.date
  | _ => none

namespace Calendar

/-! ## Texts of dates and timestamps -/

section

variable {text : String} {c : Char}

theorem isBlank_of_mem_dateTimeText (own : isDateTimeText text)
    (member : c ∈ text.toList) : isBlank c = false :=
  isBlank_of_isDateTimeChar (List.all_eq_true.mp own c member)

theorem not_mem_dateTimeText (own : isDateTimeText text)
    (other : isDateTimeChar c = false) : c ∉ text.toList := by
  intro member
  have char := List.all_eq_true.mp own c member
  rw [other] at char
  cases char

end

theorem Date.trim_text (date : Date) : trim date.text = date.text := by
  have own := isDateTimeText_date date
  apply trim_eq_self
  · intro c first
    exact isBlank_of_mem_dateTimeText own (List.mem_of_mem_head? first)
  · intro c last
    exact isBlank_of_mem_dateTimeText own (List.mem_of_getLast? last)

theorem Timestamp.toList_text (timestamp : Timestamp) :
    timestamp.text.toList =
      timestamp.date.text.toList ++ ' ' :: timestamp.time.text.toList := by
  unfold text
  simp only [String.toList_append, List.append_assoc]
  rfl

theorem Timestamp.trim_text (timestamp : Timestamp) :
    trim timestamp.text = timestamp.text := by
  have day := isDateTimeText_date timestamp.date
  have time := isDateTimeText_time timestamp.time
  have dayText : timestamp.date.text.toList ≠ [] := by
    simp [DayText.toList_text]
  have timeText : timestamp.time.text.toList ≠ [] := by
    simp [TimeOfDay.text]
  apply trim_eq_self
  · intro c first
    rw [toList_text, List.head?_append_of_ne_nil _ dayText] at first
    exact isBlank_of_mem_dateTimeText day (List.mem_of_mem_head? first)
  · intro c last
    rw [toList_text, List.getLast?_append_cons,
      List.getLast?_cons_of_ne_nil timeText] at last
    exact isBlank_of_mem_dateTimeText time (List.mem_of_getLast? last)

theorem Timestamp.quote_not_mem_text (timestamp : Timestamp) :
    '\'' ∉ timestamp.text.toList := by
  rw [toList_text, List.mem_append, List.mem_cons]
  rintro (day | blank | time)
  · exact not_mem_dateTimeText (isDateTimeText_date _) rfl day
  · cases blank
  · exact not_mem_dateTimeText (isDateTimeText_time _) rfl time

end Calendar

/-! ## The days of literals -/

variable {value : Value} {date : Date}

/-- The text of a literal begins with its day, and no blank is around it. -/
theorem Value.exists_literal_of_day? (style : BooleanStyle)
    (on : value.day? = some date) :
    ∃ text rest, value.literal style = .ok ("'" ++ text ++ "'") ∧
      trim text = text ∧ text.toList = date.text.toList ++ rest := by
  cases value with
  | date own =>
      obtain rfl : own = date := Option.some.inj on
      have unquoted : '\'' ∉ own.text.toList :=
        not_mem_dateTimeText (isDateTimeText_date own) rfl
      exact ⟨own.text, [], literal_of_quoted rfl unquoted, own.trim_text,
        (List.append_nil _).symm⟩
  | timestamp instant | timestampTz instant =>
      obtain rfl : instant.date = date := Option.some.inj on
      exact ⟨_, _, literal_of_quoted rfl instant.quote_not_mem_text,
        instant.trim_text, instant.toList_text⟩
  | _ => cases on

/-- The text of a date or of a timestamp means its day exactly for the years
from 0 to 9999. -/
theorem DayRef.resolve_literal_iff (style : BooleanStyle)
    (on : value.day? = some date) :
    ∃ text, value.literal style = .ok ("'" ++ text ++ "'") ∧
      (DayRef.text text).resolve =
        (DayText.readBack date).mapError
          (fun fault => .invalidDate text fault.message) ∧
      ((DayRef.text text).resolve = .ok date ↔
        0 ≤ date.year ∧ date.year ≤ 9999) := by
  obtain ⟨text, rest, literal, trimmed, begins⟩ :=
    Value.exists_literal_of_day? style on
  have resolved : (DayRef.text text).resolve =
      (DayText.readBack date).mapError
        (fun fault => .invalidDate text fault.message) := by
    unfold DayRef.resolve
    simp only [trimmed]
    rw [begins, DayText.read_text_append]
    cases DayText.readBack date <;> rfl
  refine ⟨text, literal, resolved, ?_⟩
  rw [resolved, ← DayText.readBack_eq_ok_iff]
  cases DayText.readBack date with
  | error fault => exact iff_of_false nofun nofun
  | ok day => rw [Except.mapError, Except.ok.injEq, Except.ok.injEq]

/-- The text of the fifteenth of March of the year -44 is longer, and its first
ten bytes mean the first of March. -/
theorem DayRef.resolve_literal_negative_year :
    let written : Date := ⟨-44, 3, 15, by decide⟩
    let read : Date := ⟨-44, 3, 1, by decide⟩
    (Value.date written).literal .keyword = .ok "'-0044-03-15'" ∧
      (DayRef.text "-0044-03-15").resolve = .ok read ∧
      (DayRef.text "-0044-03-15").resolve ≠ .ok written := by
  intro written read
  have on : (Value.date written).day? = some written := rfl
  have known : (Value.date written).literal .keyword =
      .ok ("'" ++ "-0044-03-15" ++ "'") := by cbv
  have first : DayText.readBack written = .ok read := by cbv
  obtain ⟨text, literal, resolved, same⟩ := resolve_literal_iff .keyword on
  obtain rfl : "-0044-03-15" = text := by
    have quotes := Except.ok.inj (known.symm.trans literal)
    exact (String.append_right_inj _).mp ((String.append_left_inj _).mp quotes)
  rw [first] at resolved
  refine ⟨known, resolved, ?_⟩
  intro equal
  have positive := (same.mp equal).1
  exact absurd positive (by decide)

end SqlExpr
