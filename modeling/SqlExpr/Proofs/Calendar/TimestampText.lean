import SqlExpr.Calendar.Timestamp
import SqlExpr.Proofs.Calendar.DayNumber
import SqlExpr.Proofs.Number.Digits

/-!
# Reading timestamps back

The text of a timestamp is a date and a time of day, each made of numbers with
marks between them.  A reader that takes the numbers one after the other finds
in the text what the timestamp was written with: everything but the
nanoseconds within a microsecond.
-/

namespace SqlExpr.Calendar

open SqlExpr.Number

/-! ## The reader -/

/-- The numbers that a timestamp is written with. -/
structure TimestampFields where
  year : Int
  month : Nat
  day : Nat
  hour : Nat
  minute : Nat
  second : Nat
  microsecond : Nat
  deriving DecidableEq, Repr

namespace TimestampFields

/-- Read a number of two digits behind a mark. -/
def readField? (mark : Char) : List Char → Option (Nat × List Char)
  | c :: tens :: ones :: rest =>
    if c = mark && isDigit tens && isDigit ones then
      some (ofDigits [tens, ones], rest)
    else none
  | _ => none

/-- Read a year with an optional sign. -/
def readYear? (text : List Char) : Option (Int × List Char) :=
  let (negative, unsigned) := readSign text
  let number := unsigned.takeWhile isDigit
  let year : Int := ofDigits number
  if number.isEmpty then none
  else some (if negative then -year else year, unsigned.dropWhile isDigit)

/-- Read what is behind the second: nothing, or a point and at most six decimal
places. -/
def readMicrosecond? : List Char → Option Nat
  | [] => some 0
  | c :: places =>
    if c ≠ '.' || places.isEmpty || 6 < places.length ||
        !places.all isDigit then
      none
    else some (ofDigits places * Nat.pow 10 (6 - places.length))

def read? (text : String) : Option TimestampFields := do
  let (year, rest) ← readYear? text.toList
  let (month, rest) ← readField? '-' rest
  let (day, rest) ← readField? '-' rest
  let (hour, rest) ← readField? ' ' rest
  let (minute, rest) ← readField? ':' rest
  let (second, rest) ← readField? ':' rest
  let microsecond ← readMicrosecond? rest
  return { year, month, day, hour, minute, second, microsecond }

/-! ## What is read -/

section

variable (rest : List Char)

theorem readField?_paddedText {n : Nat} (small : n < 100) (mark : Char) :
    readField? mark (mark :: ((paddedText 2 n).toList ++ rest)) =
      some (n, rest) := by
  have two : (paddedText 2 n).toList.length = 2 :=
    length_paddedText (by decide) small
  have value : ofDigits (paddedText 2 n).toList = n := ofDigits_paddedText
  have digits : ∀ c ∈ (paddedText 2 n).toList, isDigit c :=
    fun _ => isDigit_of_mem_paddedText
  generalize (paddedText 2 n).toList = text at two value digits
  match text with
  | [tens, ones] =>
      simp only [List.mem_cons, List.not_mem_nil, or_false, forall_eq_or_imp,
        forall_eq] at digits
      simp [readField?, digits, value]

/-- Digits before another character are told from what is behind them. -/
theorem span_digits {number : List Char} (digits : ∀ c ∈ number, isDigit c) :
    (number ++ '-' :: rest).takeWhile isDigit = number ∧
      (number ++ '-' :: rest).dropWhile isDigit = '-' :: rest := by
  have mark : isDigit '-' = false := by decide
  constructor
  · rw [List.takeWhile_append_of_pos digits, List.takeWhile_cons_of_neg]
    · simp
    · simp [mark]
  · rw [List.dropWhile_append_of_pos digits, List.dropWhile_cons_of_neg]
    simp [mark]

/-- A sign and digits before a mark are read as a year. -/
theorem readYear?_eq {text number : List Char} {negative : Bool}
    (sign : readSign text = (negative, number ++ '-' :: rest))
    (nonempty : number ≠ []) (digits : ∀ c ∈ number, isDigit c) :
    readYear? text =
      some (if negative then -(ofDigits number : Int) else ofDigits number,
        '-' :: rest) := by
  obtain ⟨taken, left⟩ := span_digits rest digits
  simp [readYear?, sign, taken, left, nonempty]

theorem readYear?_yearText (year : Int) :
    readYear? ((Date.yearText year).toList ++ '-' :: rest) =
      some (year, '-' :: rest) := by
  have padded (n : Nat) : ∀ c ∈ (paddedText 4 n).toList, isDigit c :=
    fun _ => isDigit_of_mem_paddedText
  unfold Date.yearText
  split
  next negative =>
    have sign : readSign (("-" ++ paddedText 4 year.natAbs).toList ++
        '-' :: rest) =
          (true, (paddedText 4 year.natAbs).toList ++ '-' :: rest) := by
      rw [String.toList_append]
      rfl
    have value : -(year.natAbs : Int) = year := by omega
    rw [readYear?_eq rest sign paddedText_ne_nil (padded _),
      ofDigits_paddedText, if_pos rfl, value]
  next positive =>
    have value : (year.toNat : Int) = year := by omega
    split
    next long =>
      have sign : readSign (("+" ++ naturalText year.toNat).toList ++
          '-' :: rest) = (false, digits year.toNat ++ '-' :: rest) := by
        simp only [String.toList_append, naturalText, String.toList_ofList]
        rfl
      rw [readYear?_eq rest sign Nat.toDigits_ne_nil
        fun _ => isAsciiDigit_of_mem_digits, ofDigits_digits,
        if_neg Bool.false_ne_true, value]
    next =>
      have sign := readSign_of_digits paddedText_ne_nil (padded year.toNat)
        ('-' :: rest)
      rw [readYear?_eq rest sign paddedText_ne_nil (padded _),
        ofDigits_paddedText, if_neg Bool.false_ne_true, value]

end

/-- Nothing but zeros is missing at the end of a fraction. -/
theorem exists_zeros (places count : Nat) :
    ∃ zeros, (paddedText places count).toList =
      (Span.fractionText places count).toList ++
        List.replicate zeros '0' := by
  unfold Span.fractionText
  simp only [String.toList_ofList]
  generalize (paddedText places count).toList = text
  have zeros : ∀ c ∈ text.reverse.takeWhile (· == '0'), c = '0' := by
    intro c member
    simpa using List.all_eq_true.mp List.all_takeWhile c member
  have split : text.reverse.takeWhile (· == '0') ++
      text.reverse.dropWhile (· == '0') = text.reverse :=
    List.takeWhile_append_dropWhile
  generalize text.reverse.takeWhile (· == '0') = dropped at zeros split
  refine ⟨dropped.length, ?_⟩
  calc text
    _ = (dropped ++ text.reverse.dropWhile (· == '0')).reverse := by
      rw [split, List.reverse_reverse]
    _ = (text.reverse.dropWhile (· == '0')).reverse ++
          List.replicate dropped.length '0' := by
      rw [List.reverse_append, List.eq_replicate_of_mem zeros,
        List.reverse_replicate, List.length_replicate]

theorem readMicrosecond?_fractionText {count : Nat} (positive : count ≠ 0)
    (small : count < 1000000) :
    readMicrosecond? ('.' :: (Span.fractionText 6 count).toList) =
      some count := by
  obtain ⟨zeros, padded⟩ := exists_zeros 6 count
  have length : (paddedText 6 count).toList.length = 6 :=
    length_paddedText (by decide) small
  have value : ofDigits (paddedText 6 count).toList = count :=
    ofDigits_paddedText
  have digits : ∀ c ∈ (paddedText 6 count).toList, isDigit c :=
    fun _ => isDigit_of_mem_paddedText
  rw [padded] at length value digits
  rw [ofDigits_append_zeros] at value
  rw [List.length_append, List.length_replicate] at length
  generalize (Span.fractionText 6 count).toList = places
    at length value digits
  have nonempty : places ≠ [] := by
    rintro rfl
    exact positive (by simpa [ofDigits] using value.symm)
  have exponent : 6 - places.length = zeros := by omega
  have few : places.length ≤ 6 := by omega
  have own : places.all isDigit :=
    List.all_eq_true.mpr fun c member =>
      digits c (List.mem_append_left _ member)
  have kept : ('.' ≠ '.' || places.isEmpty || 6 < places.length ||
      !places.all isDigit) = false := by
    simp [nonempty, few, own]
  rw [readMicrosecond?, kept, if_neg Bool.false_ne_true, exponent, value]

end TimestampFields

/-! ## The text of a timestamp -/

/-- The second that a time is written with: a leap second is the second 60. -/
def TimeOfDay.writtenSecond (time : TimeOfDay) : Nat :=
  if time.isLeapSecond then time.second + 1 else time.second

theorem TimeOfDay.microsecond_lt (time : TimeOfDay) :
    time.microsecond < 1000000 := by
  unfold microsecond nanosPerSecond
  omega

namespace Timestamp

def fields (timestamp : Timestamp) : TimestampFields where
  year := timestamp.date.year
  month := timestamp.date.month
  day := timestamp.date.day
  hour := timestamp.time.hour
  minute := timestamp.time.minute
  second := timestamp.time.writtenSecond
  microsecond := timestamp.time.microsecond

open TimestampFields

theorem readMicrosecond?_text (time : TimeOfDay) :
    readMicrosecond?
      (if time.microsecond = 0 then ""
        else "." ++ Span.fractionText 6 time.microsecond).toList =
      some time.microsecond := by
  split
  next none =>
    rw [none]
    rfl
  next some =>
    rw [String.toList_append]
    exact readMicrosecond?_fractionText some time.microsecond_lt

/-- What is read from the text of a timestamp is what it was written with. -/
theorem read?_text (timestamp : Timestamp) :
    read? timestamp.text = some timestamp.fields := by
  obtain ⟨date, time⟩ := timestamp
  have month : date.month < 100 :=
    date.month_le_twelve.trans_lt (by decide)
  have day : date.day < 100 :=
    (date.isDate.2.2.2.trans (Date.daysInMonth_le ..)).trans_lt (by decide)
  obtain ⟨hour, minute, second, -⟩ := time.isTime
  have written : time.writtenSecond < 100 := by
    unfold TimeOfDay.writtenSecond
    split <;> omega
  have fraction := readMicrosecond?_text time
  have secondText : paddedText 2 (if time.isLeapSecond then time.second + 1
      else time.second) = paddedText 2 time.writtenSecond := rfl
  have hyphen : "-".toList = ['-'] := rfl
  have blank : " ".toList = [' '] := rfl
  have colon : ":".toList = [':'] := rfl
  simp only [read?, text, Date.text, TimeOfDay.text, secondText,
    String.toList_append, List.append_assoc, hyphen, blank, colon,
    List.cons_append, List.nil_append, readYear?_yearText, bind,
    Option.bind_some, readField?_paddedText, month, day,
    hour.trans (by decide : 24 < 100), minute.trans (by decide : 60 < 100),
    written, fraction]
  rfl

end Timestamp

end SqlExpr.Calendar
