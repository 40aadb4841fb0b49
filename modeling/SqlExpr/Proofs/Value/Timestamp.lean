import Mathlib.Data.List.TakeWhile
import SqlExpr.Proofs.Query.Day
import SqlExpr.Proofs.Text.Pieces

/-!
# Timestamps as literals

The literal of a timestamp is exact to the microsecond.  What is read from it
is the timestamp without the nanoseconds within a microsecond, a fraction is
written only where there is one, with as few places as there can be, and
timestamps have one literal exactly if they lie in the same microsecond.  A
leap second is the second 60 of its minute.
-/

namespace SqlExpr.Calendar

open SqlExpr.Number SqlExpr.Text

/-- The places of a fraction of at most six digits, with no zero at the end. -/
structure IsFraction (places : List Char) : Prop where
  nonempty : places ≠ []
  short : places.length ≤ 6
  digits : ∀ c ∈ places, isDigit c
  last : places.getLast? ≠ some '0'

/-- What stands behind the first point of a text, if there is a point. -/
def fraction? (text : List Char) : Option (List Char) :=
  (text.dropWhile (· != '.')).tail?

/-- Two timestamps in one microsecond.  Those of a leap second are counted on
from those of the second before it. -/
def Timestamp.SameMicrosecond (first second : Timestamp) : Prop :=
  first.date = second.date ∧ first.time.hour = second.time.hour ∧
    first.time.minute = second.time.minute ∧
    first.time.second = second.time.second ∧
    first.time.nanosecond / 1000 = second.time.nanosecond / 1000

/-! ## Fractions -/

section

variable {count : Nat} {front places : List Char}

theorem last_fractionText (places count : Nat) :
    (Span.fractionText places count).toList.getLast? ≠ some '0' := by
  unfold Span.fractionText
  rw [String.toList_ofList]
  intro zero
  cases getLast?_dropWhile zero

theorem isFraction_fractionText (positive : count ≠ 0)
    (small : count < 1000000) :
    IsFraction (Span.fractionText 6 count).toList := by
  obtain ⟨zeros, padded⟩ := TimestampFields.exists_zeros 6 count
  have six : (paddedText 6 count).toList.length = 6 :=
    length_paddedText (by decide) small
  have value : ofDigits (paddedText 6 count).toList = count :=
    ofDigits_paddedText
  have own : ∀ c ∈ (paddedText 6 count).toList, isDigit c :=
    fun _ => isDigit_of_mem_paddedText
  rw [padded] at six value own
  refine ⟨?_, ?_, ?_, last_fractionText 6 count⟩
  · intro empty
    rw [empty, ofDigits_append_zeros] at value
    exact positive (value.symm.trans (Nat.zero_mul _))
  · rw [List.length_append] at six
    omega
  · exact fun c member => own c (List.mem_append_left _ member)

private theorem before_point (free : '.' ∉ front) :
    ∀ c ∈ front, (c != '.') = true := by
  intro c member
  rw [bne_iff_ne]
  rintro rfl
  exact free member

theorem fraction?_of_not_mem (free : '.' ∉ front) :
    fraction? front = none := by
  rw [fraction?, List.dropWhile_eq_nil_iff.mpr (before_point free)]
  rfl

theorem fraction?_append (free : '.' ∉ front) :
    fraction? (front ++ '.' :: places) = some places := by
  rw [fraction?, List.dropWhile_append_of_pos (before_point free),
    List.dropWhile_cons_of_neg (by decide)]
  rfl

end

/-! ## The text of a timestamp -/

/-- A leap second is written as the second 60, and any other as it is. -/
theorem TimeOfDay.writtenSecond_cases (time : TimeOfDay) :
    nanosPerSecond ≤ time.nanosecond ∧
        time.nanosecond < 2 * nanosPerSecond ∧ time.second = 59 ∧
        time.writtenSecond = 60 ∨
      time.nanosecond < nanosPerSecond ∧ time.writtenSecond = time.second := by
  obtain ⟨-, -, -, ordinary⟩ := time.isTime
  unfold writtenSecond isLeapSecond
  by_cases leap : nanosPerSecond ≤ time.nanosecond
  · rw [if_pos (by simpa using leap)]
    omega
  · rw [if_neg (by simpa using leap)]
    omega

private theorem point_not_mem_paddedText (width n : Nat) :
    '.' ∉ (paddedText width n).toList := by
  intro member
  cases isDigit_of_mem_paddedText member

theorem point_not_mem_yearText (year : Int) :
    '.' ∉ (Date.yearText year).toList := by
  unfold Date.yearText
  split
  · rw [String.toList_append, List.mem_append, not_or]
    exact ⟨by decide, point_not_mem_paddedText 4 _⟩
  · split
    · rw [String.toList_append, List.mem_append, not_or]
      refine ⟨by decide, fun member => ?_⟩
      rw [naturalText, String.toList_ofList] at member
      cases isAsciiDigit_of_mem_digits member
    · exact point_not_mem_paddedText 4 _

namespace Timestamp

variable {first second : Timestamp}

/-- The text of a timestamp up to its second. -/
def secondText (timestamp : Timestamp) : String :=
  timestamp.date.text ++ " " ++ (paddedText 2 timestamp.time.hour ++ ":" ++
    paddedText 2 timestamp.time.minute ++ ":" ++
    paddedText 2 timestamp.time.writtenSecond)

theorem text_eq (timestamp : Timestamp) :
    timestamp.text.toList = timestamp.secondText.toList ++
      if timestamp.time.microsecond = 0 then []
      else '.' :: (Span.fractionText 6 timestamp.time.microsecond).toList := by
  have point : ".".toList = ['.'] := rfl
  unfold text secondText TimeOfDay.text TimeOfDay.writtenSecond
  simp only [String.toList_append, List.append_assoc]
  split <;> split <;> simp [point]

theorem point_not_mem_secondText (timestamp : Timestamp) :
    '.' ∉ timestamp.secondText.toList := by
  simp only [secondText, Date.text, String.toList_append, List.mem_append,
    point_not_mem_yearText, point_not_mem_paddedText]
  decide

theorem fraction?_text (timestamp : Timestamp) :
    timestamp.time.microsecond = 0 ∧ fraction? timestamp.text.toList = none ∨
      timestamp.time.microsecond ≠ 0 ∧
        ∃ places, fraction? timestamp.text.toList = some places ∧
          IsFraction places := by
  have free := timestamp.point_not_mem_secondText
  rw [text_eq]
  by_cases none : timestamp.time.microsecond = 0
  · left
    rw [if_pos none, List.append_nil]
    exact ⟨none, fraction?_of_not_mem free⟩
  · right
    rw [if_neg none]
    exact ⟨none, _, fraction?_append free,
      isFraction_fractionText none timestamp.time.microsecond_lt⟩

theorem fields_eq_iff :
    first.fields = second.fields ↔ first.SameMicrosecond second := by
  have firstSecond := first.time.writtenSecond_cases
  have secondSecond := second.time.writtenSecond_cases
  obtain ⟨-, -, firstBelow, -⟩ := first.time.isTime
  obtain ⟨-, -, secondBelow, -⟩ := second.time.isTime
  have date : first.date = second.date ↔
      first.date.year = second.date.year ∧
        first.date.month = second.date.month ∧
        first.date.day = second.date.day := by
    rw [Date.mk.injEq]
  simp only [fields, TimestampFields.mk.injEq, SameMicrosecond, date,
    TimeOfDay.microsecond, nanosPerSecond] at firstSecond secondSecond ⊢
  omega

/-- Timestamps in one microsecond are written alike, and others are not, since
they are read back apart. -/
theorem text_eq_iff :
    first.text = second.text ↔ first.SameMicrosecond second := by
  rw [← fields_eq_iff]
  constructor
  · intro same
    have read := first.read?_text
    rw [same, second.read?_text] at read
    exact (Option.some.inj read).symm
  · intro same
    have date : first.date = second.date := (fields_eq_iff.mp same).1
    simp only [fields, TimestampFields.mk.injEq] at same
    obtain ⟨-, -, -, hour, minute, written, microsecond⟩ := same
    rw [← String.toList_inj, text_eq, text_eq, secondText, secondText, date,
      hour, minute, written, microsecond]

/-- The literal of a timestamp, with or without a time zone, is exact to the
microsecond. -/
theorem literal_exact (style : BooleanStyle) (timestamp : Timestamp) :
    ∃ text, (Value.timestamp timestamp).literal style =
        .ok ("'" ++ text ++ "'") ∧
      (Value.timestampTz timestamp).literal style =
        .ok ("'" ++ text ++ "'") ∧
      TimestampFields.read? text = some
        { year := timestamp.date.year
          month := timestamp.date.month
          day := timestamp.date.day
          hour := timestamp.time.hour
          minute := timestamp.time.minute
          second :=
            if nanosPerSecond ≤ timestamp.time.nanosecond then 60
            else timestamp.time.second
          microsecond := timestamp.time.nanosecond % nanosPerSecond / 1000 } ∧
      (timestamp.time.nanosecond % nanosPerSecond / 1000 = 0 ∧
          fraction? text.toList = none ∨
        timestamp.time.nanosecond % nanosPerSecond / 1000 ≠ 0 ∧
          ∃ places, fraction? text.toList = some places ∧
            IsFraction places) ∧
      ∀ other : Timestamp,
        (Value.timestamp other).literal style = .ok ("'" ++ text ++ "'") ↔
          timestamp.SameMicrosecond other := by
  have literal (instant : Timestamp) :
      (Value.timestamp instant).literal style =
        .ok ("'" ++ instant.text ++ "'") :=
    Value.literal_of_quoted rfl instant.quote_not_mem_text
  have zoned := @Value.literal_of_quoted style (.timestampTz timestamp) _ rfl
    timestamp.quote_not_mem_text
  refine ⟨timestamp.text, literal timestamp, zoned, ?_,
    timestamp.fraction?_text, ?_⟩
  · have written : timestamp.time.writtenSecond =
        if nanosPerSecond ≤ timestamp.time.nanosecond then 60
        else timestamp.time.second := by
      rcases timestamp.time.writtenSecond_cases with
        ⟨leap, -, -, sixty⟩ | ⟨ordinary, own⟩
      · rw [if_pos leap, sixty]
      · rw [if_neg (Nat.not_le_of_lt ordinary), own]
    rw [read?_text, fields, written]
    rfl
  · intro other
    rw [← text_eq_iff, literal, Except.ok.injEq, String.append_left_inj, String.append_right_inj]
    exact eq_comm

example :
    Timestamp.text
        ⟨⟨-44, 3, 15, by decide⟩, ⟨23, 59, 59, 1000001999, by decide⟩⟩ =
      "-0044-03-15 23:59:60.000001" := by
  cbv

end Timestamp

end SqlExpr.Calendar
