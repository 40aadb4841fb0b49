import SqlExpr.Calendar.DayText
import SqlExpr.Proofs.Calendar.TimestampText
import SqlExpr.Proofs.Text.Pieces

/-!
# Reading days back

A day is read from the first ten bytes of a text.  The text of a day has ten
bytes exactly if its year has four digits and no sign.  A longer text is cut:
behind a year with a sign and four digits the last digit of the day is missing,
and behind a longer year the whole day is.
-/

namespace SqlExpr

open SqlExpr.Calendar SqlExpr.Number SqlExpr.Text

namespace Calendar

/-! ## Cutting -/

/-- The characters that dates and times of day are written with. -/
def isDateTimeChar (c : Char) : Bool :=
  isDigit c || c == '-' || c == '+' || c == ':' || c == '.'

theorem code_of_isDateTimeChar {c : Char} (own : isDateTimeChar c) :
    40 ≤ c.toNat ∧ c.toNat ≤ 58 := by
  simp only [isDateTimeChar, Bool.or_eq_true, beq_iff_eq] at own
  rcases own with (((digit | rfl) | rfl) | rfl) | rfl
  · simp only [isDigit, Bool.and_eq_true, decide_eq_true_eq] at digit
    have low : 48 ≤ c.toNat := digit.1
    have high : c.toNat ≤ 57 := digit.2
    omega
  all_goals decide

theorem isBlank_of_isDateTimeChar {c : Char} (own : isDateTimeChar c) :
    isBlank c = false := by
  obtain ⟨low, high⟩ := code_of_isDateTimeChar own
  simp only [isBlank, Bool.or_eq_false_iff, Bool.and_eq_false_iff,
    decide_eq_false_iff_not, beq_eq_false_iff_ne]
  omega

theorem utf8Size_of_isDateTimeChar {c : Char} (own : isDateTimeChar c) :
    c.utf8Size = 1 := by
  obtain ⟨-, high⟩ := code_of_isDateTimeChar own
  rw [Char.utf8Size_eq_one_iff, UInt32.le_iff_toNat_le]
  exact high.trans (by decide)

theorem isDateTimeChar_of_isDigit {c : Char} (digit : isDigit c) :
    isDateTimeChar c := by
  simp [isDateTimeChar, digit]

def isDateTimeText (text : String) : Bool := text.toList.all isDateTimeChar

@[simp]
theorem isDateTimeText_append (first second : String) :
    isDateTimeText (first ++ second) =
      (isDateTimeText first && isDateTimeText second) := by
  unfold isDateTimeText
  rw [String.toList_append, List.all_append]

@[simp]
theorem isDateTimeText_naturalText (n : Nat) :
    isDateTimeText (naturalText n) = true := by
  unfold isDateTimeText naturalText
  rw [String.toList_ofList, List.all_eq_true]
  intro c member
  exact isDateTimeChar_of_isDigit (isAsciiDigit_of_mem_digits member)

@[simp]
theorem isDateTimeText_paddedText (width n : Nat) :
    isDateTimeText (paddedText width n) = true := by
  unfold isDateTimeText
  rw [List.all_eq_true]
  intro c member
  exact isDateTimeChar_of_isDigit (isDigit_of_mem_paddedText member)

@[simp]
theorem isDateTimeText_fractionText (places count : Nat) :
    isDateTimeText (Span.fractionText places count) = true := by
  obtain ⟨zeros, padded⟩ := TimestampFields.exists_zeros places count
  have own := isDateTimeText_paddedText places count
  unfold isDateTimeText at own ⊢
  rw [padded, List.all_append, Bool.and_eq_true] at own
  exact own.1

theorem isDateTimeText_date (date : Date) : isDateTimeText date.text := by
  have year : isDateTimeText (Date.yearText date.year) := by
    unfold Date.yearText
    split
    · simp only [isDateTimeText_append, isDateTimeText_paddedText]
      rfl
    · split
      · simp only [isDateTimeText_append, isDateTimeText_naturalText]
        rfl
      · exact isDateTimeText_paddedText ..
  unfold Date.text
  simp only [isDateTimeText_append, isDateTimeText_paddedText, year]
  rfl

theorem isDateTimeText_time (time : TimeOfDay) : isDateTimeText time.text := by
  unfold TimeOfDay.text
  simp only [isDateTimeText_append, isDateTimeText_paddedText]
  split
  · rfl
  · simp only [isDateTimeText_append, isDateTimeText_fractionText]
    rfl

theorem trimLeft_append {number rest : List Char} (nonempty : number ≠ [])
    (own : ∀ c ∈ number, isDateTimeChar c) :
    trimLeft (number ++ rest) = number ++ rest := by
  cases number with
  | nil => exact absurd rfl nonempty
  | cons c number =>
      have visible := isBlank_of_isDateTimeChar (own c List.mem_cons_self)
      unfold trimLeft
      rw [List.cons_append, List.dropWhile_cons_of_neg]
      simp [visible]

namespace DayText

/-! ## Reading the parts -/

section

variable {number : List Char} {width greatest n : Nat} (rest : List Char)

theorem leadingBytes?_append (own : ∀ c ∈ number, isDateTimeChar c) :
    leadingBytes? number.length (number ++ rest) = some number := by
  induction number with
  | nil => rw [List.length_nil, leadingBytes?]
  | cons c number induction =>
      obtain ⟨first, others⟩ := List.forall_mem_cons.mp own
      have size := utf8Size_of_isDateTimeChar first
      rw [List.length_cons, List.cons_append, leadingBytes?, size,
        if_pos (Nat.le_add_left 1 _), Nat.add_sub_cancel, induction others]
      rfl

/-- Digits are read up to the width, or up to a character that is none. -/
theorem readNumber_append (nonempty : number ≠ [])
    (digits : ∀ c ∈ number, isDigit c) (short : number.length ≤ width)
    (stops : number.length = width ∨ ∀ c ∈ rest.head?, isDigit c = false) :
    readNumber width (number ++ rest) = .ok (ofDigits number, rest) := by
  have taken : ((number ++ rest).takeWhile isDigit).take width = number := by
    rw [List.takeWhile_append_of_pos digits]
    rcases stops with rfl | stops
    · exact List.take_left
    · have none : rest.takeWhile isDigit = [] := by
        cases rest with
        | nil => rfl
        | cons c rest =>
            rw [List.takeWhile_cons_of_neg]
            simp [stops c rfl]
      rw [none, List.append_nil, List.take_of_length_le short]
  have left : (number ++ rest).isEmpty = false := by
    simp [nonempty]
  have some : number.isEmpty = false := by
    simp [nonempty]
  simp only [readNumber, taken, left, some, List.drop_left]
  rfl

theorem readNumber_hyphen (nonempty : number ≠ [])
    (digits : ∀ c ∈ number, isDigit c) :
    readNumber (number ++ '-' :: rest).length (number ++ '-' :: rest) =
      .ok (ofDigits number, '-' :: rest) := by
  apply readNumber_append _ nonempty digits
  · rw [List.length_append]
    exact Nat.le_add_right ..
  · right
    intro c mark
    cases mark
    decide

theorem readPart_append (nonempty : number ≠ [])
    (digits : ∀ c ∈ number, isDigit c) (short : number.length ≤ 2)
    (stops : number.length = 2 ∨ ∀ c ∈ rest.head?, isDigit c = false) :
    readPart greatest (number ++ rest) =
      if 1 ≤ ofDigits number ∧ ofDigits number ≤ greatest then
        .ok (ofDigits number, rest)
      else .error .outOfRange := by
  have own : ∀ c ∈ number, isDateTimeChar c :=
    fun c member => isDateTimeChar_of_isDigit (digits c member)
  unfold readPart
  rw [trimLeft_append nonempty own,
    readNumber_append rest nonempty digits short stops]
  rfl

theorem readPart_paddedText (positive : 1 ≤ n) (most : n ≤ greatest)
    (small : n < 100) :
    readPart greatest ((paddedText 2 n).toList ++ rest) = .ok (n, rest) := by
  have two : (paddedText 2 n).toList.length = 2 :=
    length_paddedText (by decide) small
  rw [readPart_append rest paddedText_ne_nil
    (fun _ => isDigit_of_mem_paddedText) two.le (.inl two),
    ofDigits_paddedText, if_pos ⟨positive, most⟩]

/-- A year with a sign may have any number of digits. -/
theorem readYear_signed (nonempty : number ≠ [])
    (digits : ∀ c ∈ number, isDigit c)
    (small : ofDigits number ≤ 2147483647) :
    readYear ('-' :: (number ++ '-' :: rest)) =
        .ok (-(ofDigits number : Int), '-' :: rest) ∧
      readYear ('+' :: (number ++ '-' :: rest)) =
        .ok ((ofDigits number : Int), '-' :: rest) := by
  have read := readNumber_hyphen rest nonempty digits
  have visible (sign : Char) (own : isDateTimeChar sign) :
      trimLeft (sign :: (number ++ '-' :: rest)) =
        sign :: (number ++ '-' :: rest) :=
    trimLeft_append (List.cons_ne_nil sign []) (by simpa using own)
  unfold readYear
  constructor
  · rw [visible '-' rfl]
    simp only [read]
    apply if_pos
    omega
  · rw [visible '+' rfl]
    simp only [read]
    apply if_pos
    omega

/-- A year without a sign has at most four digits. -/
theorem readYear_unsigned (nonempty : number ≠ [])
    (digits : ∀ c ∈ number, isDigit c) (short : number.length ≤ 4)
    (stops : number.length = 4 ∨ ∀ c ∈ rest.head?, isDigit c = false)
    (small : ofDigits number ≤ 2147483647) :
    readYear (number ++ rest) = .ok ((ofDigits number : Int), rest) := by
  have own : ∀ c ∈ number, isDateTimeChar c :=
    fun c member => isDateTimeChar_of_isDigit (digits c member)
  have read := readNumber_append rest nonempty digits short stops
  obtain ⟨c, others, rfl⟩ := List.exists_cons_of_ne_nil nonempty
  have digit : isDigit c := digits c List.mem_cons_self
  unfold readYear
  rw [trimLeft_append nonempty own]
  split
  next signed =>
    cases signed
    cases digit
  next signed =>
    cases signed
    cases digit
  next =>
    simp only [read]
    apply if_pos
    omega

theorem readYear_yearText {year : Int} (least : minYear ≤ year)
    (greatest : year ≤ maxYear) :
    readYear ((Date.yearText year).toList ++ '-' :: rest) =
      .ok (year, '-' :: rest) := by
  unfold minYear at least
  unfold maxYear at greatest
  have padded (n : Nat) : ∀ c ∈ (paddedText 4 n).toList, isDigit c :=
    fun _ => isDigit_of_mem_paddedText
  have value (n : Nat) : ofDigits (paddedText 4 n).toList = n :=
    ofDigits_paddedText
  unfold Date.yearText
  split
  next negative =>
    have read := (readYear_signed rest paddedText_ne_nil
      (padded year.natAbs) (by rw [value]; omega)).1
    have same : -(year.natAbs : Int) = year := by omega
    rw [value, same] at read
    rw [String.toList_append]
    exact read
  next positive =>
    have same : (year.toNat : Int) = year := by omega
    split
    next long =>
      have own : ∀ c ∈ digits year.toNat, isDigit c :=
        fun _ => isAsciiDigit_of_mem_digits
      have nonempty : digits year.toNat ≠ [] := Nat.toDigits_ne_nil
      have read := (readYear_signed rest nonempty own
        (by rw [ofDigits_digits]; omega)).2
      have text : (naturalText year.toNat).toList = digits year.toNat :=
        String.toList_ofList
      rw [ofDigits_digits, same] at read
      rw [String.toList_append, text]
      exact read
    next short =>
      have small : year.toNat < 10000 := by omega
      have four : (paddedText 4 year.toNat).toList.length = 4 :=
        length_paddedText (by decide) small
      have read := readYear_unsigned ('-' :: rest) paddedText_ne_nil
        (padded year.toNat) four.le (.inl four) (by rw [value]; omega)
      rw [value, same] at read
      exact read

end

/-! ## Reading the text of a day -/

/-- The day that three numbers name. -/
def dayOf (year : Int) (month day : Nat) : Except DayFault Date :=
  match Date.ofParts? year month day with
  | some date => .ok date
  | none => .error .outOfRange

/-- Read a hyphen and the last number of a day. -/
def readDay (year : Int) (month : Nat) (text : List Char) :
    Except DayFault Date := do
  let rest ← readHyphen text
  let (day, rest) ← readPart 31 rest
  if rest.isEmpty then dayOf year month day
  else throw .trailingInput

theorem readDay_hyphen {year : Int} {month day : Nat} {text : List Char}
    (read : readPart 31 text = .ok (day, [])) :
    readDay year month ('-' :: text) = dayOf year month day := by
  have hyphen : readHyphen ('-' :: text) = .ok text := rfl
  unfold readDay
  rw [hyphen]
  change readPart 31 text >>= _ = _
  rw [read]
  rfl

variable (date : Date)

/-- Year and month are always read as they were written. -/
theorem readDate_month (rest : List Char) :
    readDate ((Date.yearText date.year).toList ++
        '-' :: ((paddedText 2 date.month).toList ++ rest)) =
      readDay date.year date.month rest := by
  obtain ⟨least, greatest, -, -⟩ := date.isDate
  have year := readYear_yearText ((paddedText 2 date.month).toList ++ rest)
    least greatest
  have month : readPart 12 ((paddedText 2 date.month).toList ++ rest) =
      .ok (date.month, rest) :=
    readPart_paddedText rest date.one_le_month date.month_le_twelve
      (date.month_le_twelve.trans_lt (by decide))
  have hyphen (rest : List Char) : readHyphen ('-' :: rest) = .ok rest := rfl
  have next {α β : Type} (value : α) (read : α → Except DayFault β) :
      (Except.ok value >>= read) = read value := rfl
  simp only [readDate, year, hyphen, month, next]
  rfl

theorem ofDigits_tens (tens : Char) {ones : Char} (digit : isDigit ones) :
    ofDigits [tens] = ofDigits [tens, ones] / 10 := by
  simp only [isDigit, Bool.and_eq_true, decide_eq_true_eq] at digit
  have low : 48 ≤ ones.toNat := digit.1
  have high : ones.toNat ≤ 57 := digit.2
  have zero : '0'.toNat = 48 := rfl
  simp only [ofDigits, List.foldl_cons, List.foldl_nil, digitValue, zero]
  omega

theorem readDay_tens {tens ones : Char} (first : isDigit tens)
    (second : isDigit ones) (value : ofDigits [tens, ones] = date.day) :
    readDay date.year date.month ['-', tens] =
      dayOf date.year date.month (date.day / 10) := by
  have tenth := ofDigits_tens tens second
  rw [value] at tenth
  have few : date.day / 10 ≤ 31 := by
    have last := date.isDate.2.2.2.trans (Date.daysInMonth_le ..)
    omega
  have read : readPart 31 [tens] =
      if 1 ≤ date.day / 10 ∧ date.day / 10 ≤ 31 then .ok (date.day / 10, [])
      else .error .outOfRange := by
    rw [← tenth]
    change readPart 31 ([tens] ++ []) = _
    apply readPart_append
    · exact List.cons_ne_nil tens []
    · simpa using first
    · exact Nat.le_add_left 1 1
    · right
      intro c none
      cases none
  by_cases positive : 1 ≤ date.day / 10
  · rw [if_pos ⟨positive, few⟩] at read
    exact readDay_hyphen read
  · have missing : Date.ofParts? date.year date.month (date.day / 10) =
        none := dif_neg fun isDate => positive isDate.2.2.1
    rw [if_neg fun both => positive both.1] at read
    unfold dayOf
    rw [missing]
    change readPart 31 [tens] >>= _ = _
    rw [read]
    rfl

theorem readDay_ones :
    readDay date.year date.month ('-' :: (paddedText 2 date.day).toList) =
      .ok date := by
  obtain ⟨-, -, positive, last⟩ := date.isDate
  have most : date.day ≤ 31 := last.trans (Date.daysInMonth_le ..)
  have read := readPart_paddedText [] positive most
    (most.trans_lt (by decide))
  have found : Date.ofParts? date.year date.month date.day = some date :=
    dif_pos date.isDate
  rw [List.append_nil] at read
  rw [readDay_hyphen read, dayOf, found]

/-- The last number is read whole, or no more than its first digit, or not at
all. -/
theorem readDay_take (count : Nat) :
    readDay date.year date.month
        (('-' :: (paddedText 2 date.day).toList).take count) =
      if count < 2 then .error .prematureEnd
      else if count = 2 then dayOf date.year date.month (date.day / 10)
      else .ok date := by
  have whole := readDay_ones date
  have small : date.day < 100 :=
    (date.isDate.2.2.2.trans (Date.daysInMonth_le ..)).trans_lt (by decide)
  have two : (paddedText 2 date.day).toList.length = 2 :=
    length_paddedText (by decide) small
  have value : ofDigits (paddedText 2 date.day).toList = date.day :=
    ofDigits_paddedText
  have digits : ∀ c ∈ (paddedText 2 date.day).toList, isDigit c :=
    fun _ => isDigit_of_mem_paddedText
  generalize (paddedText 2 date.day).toList = text at *
  match text, count with
  | _, 0 => rfl
  | _, 1 => rfl
  | [tens, ones], 2 =>
      obtain ⟨first, second, -⟩ := by
        simpa only [List.forall_mem_cons] using digits
      exact readDay_tens date first second value
  | [tens, ones], count + 3 =>
      have most : (['-', tens, ones]).length ≤ count + 3 :=
        Nat.le_add_left 3 count
      rw [List.take_of_length_le most, whole, if_neg (by omega),
        if_neg (by omega)]

/-- What the text of a day is read as. -/
def readBack : Except DayFault Date :=
  if date.year < -9999 ∨ 9999 < date.year then .error .prematureEnd
  else if date.year < 0 then dayOf date.year date.month (date.day / 10)
  else .ok date

theorem day_of_dayOf {year : Int} {month day : Nat} {date : Date}
    (read : dayOf year month day = .ok date) : date.day = day := by
  unfold dayOf Date.ofParts? at read
  split_ifs at read with isDate
  cases read
  rfl

theorem readBack_eq_ok_iff :
    readBack date = .ok date ↔ 0 ≤ date.year ∧ date.year ≤ 9999 := by
  unfold readBack
  by_cases outside : date.year < -9999 ∨ 9999 < date.year
  · rw [if_pos outside]
    exact iff_of_false nofun (by omega)
  · rw [if_neg outside]
    by_cases negative : date.year < 0
    · rw [if_pos negative]
      apply iff_of_false
      · intro read
        have own := day_of_dayOf read
        have positive := date.isDate.2.2.1
        omega
      · omega
    · rw [if_neg negative]
      exact iff_of_true rfl (by omega)

/-! ## Cutting the text of a day -/

theorem length_paddedText_eq_max (width n : Nat) :
    (paddedText width n).toList.length = max width (digits n).length := by
  rw [paddedText, String.toList_ofList, List.length_append,
    List.length_replicate]
  omega

/-- Four characters are a year without a sign, and five are one with a sign
and four digits. -/
theorem length_yearText :
    let length := (Date.yearText date.year).toList.length
    4 ≤ length ∧ length ≤ 7 ∧
      (length = 4 ↔ 0 ≤ date.year ∧ date.year ≤ 9999) ∧
      (length = 5 ↔ -9999 ≤ date.year ∧ date.year < 0) := by
  intro length
  obtain ⟨least, greatest, -, -⟩ := date.isDate
  unfold minYear at least
  unfold maxYear at greatest
  have four (n : Nat) : (digits n).length ≤ 4 ↔ n < 10000 :=
    Nat.length_toDigits_le_iff (by decide) (by decide)
  have six (n : Nat) : (digits n).length ≤ 6 ↔ n < 1000000 :=
    Nat.length_toDigits_le_iff (by decide) (by decide)
  have sign (mark : String) (text : String) (one : mark.toList.length = 1) :
      (mark ++ text).toList.length = text.toList.length + 1 := by
    rw [String.toList_append, List.length_append, one, Nat.add_comm]
  unfold length Date.yearText
  split
  next negative =>
    have few := four date.year.natAbs
    have some := six date.year.natAbs
    rw [sign "-" _ rfl, length_paddedText_eq_max]
    omega
  next positive =>
    have few := four date.year.toNat
    have some := six date.year.toNat
    split
    next long =>
      rw [sign "+" _ rfl, naturalText, String.toList_ofList]
      omega
    next short =>
      rw [length_paddedText_eq_max]
      omega

theorem toList_text :
    date.text.toList = (Date.yearText date.year).toList ++
      '-' :: ((paddedText 2 date.month).toList ++
        '-' :: (paddedText 2 date.day).toList) := by
  unfold Date.text
  simp only [String.toList_append, List.append_assoc]
  rfl

/-- The first ten characters of a day, as its year gives them. -/
theorem take_text :
    date.text.toList.take 10 = (Date.yearText date.year).toList ++
      '-' :: ((paddedText 2 date.month).toList ++
        ('-' :: (paddedText 2 date.day).toList).take
          (7 - (Date.yearText date.year).toList.length)) := by
  obtain ⟨-, most, -, -⟩ := length_yearText date
  have month : (paddedText 2 date.month).toList.length = 2 :=
    length_paddedText (by decide)
      (date.month_le_twelve.trans_lt (by decide))
  have exact : 10 - (Date.yearText date.year).toList.length =
      (7 - (Date.yearText date.year).toList.length) + 2 + 1 := by
    omega
  rw [toList_text, List.take_append, List.take_of_length_le (by omega), exact,
    List.take_succ_cons, List.take_append,
    List.take_of_length_le (by omega), month, Nat.add_sub_cancel]

/-- What the text of a day is read as, whatever is behind it. -/
theorem read_text_append (rest : List Char) :
    read (date.text.toList ++ rest) = readBack date := by
  obtain ⟨least, most, four, five⟩ := length_yearText date
  have long : 10 ≤ date.text.toList.length := by
    rw [toList_text, List.length_append, List.length_cons, List.length_append,
      List.length_cons, length_paddedText_eq_max, length_paddedText_eq_max]
    omega
  have cut : datePart (date.text.toList ++ rest) =
      date.text.toList.take 10 := by
    have own : ∀ c ∈ date.text.toList.take 10, isDateTimeChar c := by
      intro c member
      exact List.all_eq_true.mp (isDateTimeText_date date) c
        (List.mem_of_mem_take member)
    have front := leadingBytes?_append (date.text.toList.drop 10 ++ rest) own
    rw [List.length_take_of_le long, ← List.append_assoc,
      List.take_append_drop] at front
    unfold datePart
    rw [front, Option.getD_some]
  unfold read readBack
  rw [cut, take_text, readDate_month, readDay_take]
  by_cases outside : date.year < -9999 ∨ 9999 < date.year
  · rw [if_pos (by omega), if_pos outside]
  · rw [if_neg (by omega), if_neg outside]
    by_cases negative : date.year < 0
    · rw [if_pos (by omega), if_pos negative]
    · rw [if_neg (by omega), if_neg negative]

end DayText

end Calendar

end SqlExpr
