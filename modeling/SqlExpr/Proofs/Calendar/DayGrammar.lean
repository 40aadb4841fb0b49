import SqlExpr.Error
import SqlExpr.Proofs.Calendar.DayText

/-!
# The grammar of days

`SpellsDay` is the grammar of the texts that name a day: a year, a month and a
day with hyphens between them and blanks before each of the three.  The reader
accepts exactly these texts.  A text of a day can be longer than another one
that it begins with, but only by a second digit of the day, and then the two
name different days.
-/

namespace SqlExpr.Calendar.DayText

open SqlExpr.Number SqlExpr.Text

def AreBlanks (text : List Char) : Prop := ∀ c ∈ text, isBlank c

/-- The texts of a year.  Without a sign there are at most four digits. -/
inductive SpellsYear : List Char → Int → Prop where
  | unsigned {number : List Char} :
      IsNumber number → number.length ≤ 4 → SpellsYear number (ofDigits number)
  | positive {number : List Char} :
      IsNumber number → SpellsYear ('+' :: number) (ofDigits number)
  | negative {number : List Char} :
      IsNumber number → SpellsYear ('-' :: number) (-(ofDigits number : Int))

/-- The texts of a month or of a day of a month. -/
structure SpellsPart (text : List Char) (part : Nat) : Prop where
  isNumber : IsNumber text
  short : text.length ≤ 2
  value : ofDigits text = part

/-- The texts of a year and a month. -/
inductive SpellsMonth : List Char → Int → Nat → Prop where
  | intro {before between yearText monthText : List Char} {year : Int}
      {month : Nat} :
      AreBlanks before → SpellsYear yearText year →
      AreBlanks between → SpellsPart monthText month →
      SpellsMonth (before ++ (yearText ++ '-' :: (between ++ monthText)))
        year month

/-- The texts of a day. -/
inductive SpellsDay : List Char → Date → Prop where
  | intro {front between dayText : List Char} {date : Date} :
      SpellsMonth front date.year date.month →
      AreBlanks between → SpellsPart dayText date.day →
      SpellsDay (front ++ '-' :: (between ++ dayText)) date

/-! ## What the readers find -/

section

variable {text rest : List Char}

/-- A text is made of the blanks before it and what is behind them. -/
theorem exists_blanks (text : List Char) :
    ∃ blanks, AreBlanks blanks ∧ text = blanks ++ trimLeft text := by
  refine ⟨text.takeWhile isBlank, ?_, List.takeWhile_append_dropWhile.symm⟩
  intro c member
  exact List.all_eq_true.mp List.all_takeWhile c member

theorem exists_of_readNumber {width value : Nat}
    (read : readNumber width text = .ok (value, rest)) :
    ∃ number, text = number ++ rest ∧ IsNumber number ∧
      number.length ≤ width ∧ ofDigits number = value := by
  simp only [readNumber] at read
  generalize taken : (text.takeWhile isDigit).take width = number at read
  split_ifs at read with none some
  cases read
  have begins : number <+: text := by
    rw [← taken]
    exact (List.take_prefix ..).trans (List.takeWhile_prefix _)
  have split := (List.prefix_iff_eq_append.mp begins).symm
  refine ⟨number, split, ⟨?_, ?_⟩, ?_, rfl⟩
  · simpa using some
  · intro c member
    rw [← taken] at member
    exact List.all_eq_true.mp List.all_takeWhile c
      (List.mem_of_mem_take member)
  · rw [← taken]
    exact List.length_take_le ..

theorem exists_of_readPart {greatest part : Nat}
    (read : readPart greatest text = .ok (part, rest)) :
    ∃ blanks own, text = blanks ++ (own ++ rest) ∧ AreBlanks blanks ∧
      SpellsPart own part ∧ 1 ≤ part ∧ part ≤ greatest := by
  obtain ⟨⟨value, left⟩, number, checked⟩ := bind_eq_ok_iff.mp read
  obtain ⟨own, split, isNumber, short, value⟩ := exists_of_readNumber number
  obtain ⟨blanks, areBlanks, whole⟩ := exists_blanks text
  dsimp only at checked
  split_ifs at checked with bounds
  cases checked
  rw [split] at whole
  exact ⟨blanks, own, whole, areBlanks, ⟨isNumber, short, value⟩, bounds⟩

/-- A number that fits in 32 bits with its sign is kept as it was read. -/
theorem exists_of_readSigned (sign : Nat → Int) {width : Nat} {year : Int}
    (read : (readNumber width text >>= fun found =>
      if -2147483648 ≤ sign found.1 ∧ sign found.1 ≤ 2147483647 then
        .ok (sign found.1, found.2)
      else .error .outOfRange) = .ok (year, rest)) :
    ∃ number, text = number ++ rest ∧ IsNumber number ∧
      number.length ≤ width ∧ sign (ofDigits number) = year := by
  obtain ⟨⟨value, left⟩, found, checked⟩ := bind_eq_ok_iff.mp read
  obtain ⟨number, split, isNumber, short, rfl⟩ := exists_of_readNumber found
  dsimp only at checked
  split_ifs at checked
  cases checked
  exact ⟨number, split, isNumber, short, rfl⟩

theorem exists_of_readYear {year : Int}
    (read : readYear text = .ok (year, rest)) :
    ∃ blanks own, text = blanks ++ (own ++ rest) ∧ AreBlanks blanks ∧
      SpellsYear own year := by
  obtain ⟨blanks, areBlanks, whole⟩ := exists_blanks text
  unfold readYear at read
  split at read
  · next unsigned begins =>
      obtain ⟨number, rfl, isNumber, -, rfl⟩ :=
        exists_of_readSigned (fun value => -(value : Int)) read
      rw [begins] at whole
      exact ⟨blanks, '-' :: number, whole, areBlanks, .negative isNumber⟩
  · next unsigned begins =>
      obtain ⟨number, rfl, isNumber, -, rfl⟩ :=
        exists_of_readSigned (fun value => (value : Int)) read
      rw [begins] at whole
      exact ⟨blanks, '+' :: number, whole, areBlanks, .positive isNumber⟩
  · obtain ⟨number, split, isNumber, short, rfl⟩ :=
      exists_of_readSigned (fun value => (value : Int)) read
    rw [split] at whole
    exact ⟨blanks, number, whole, areBlanks, .unsigned isNumber short⟩

theorem eq_of_readHyphen (read : readHyphen text = .ok rest) :
    text = '-' :: rest := by
  unfold readHyphen at read
  split at read <;> cases read
  rfl

end

/-! ## Reading what the grammar gives -/

section

variable {text blanks : List Char} (rest : List Char)

theorem trimLeft_blanks (areBlanks : AreBlanks blanks) (text : List Char) :
    trimLeft (blanks ++ text) = trimLeft text :=
  List.dropWhile_append_of_pos areBlanks

theorem readPart_blanks (areBlanks : AreBlanks blanks) (greatest : Nat) :
    readPart greatest (blanks ++ text) = readPart greatest text := by
  unfold readPart
  rw [trimLeft_blanks areBlanks]

theorem readYear_blanks (areBlanks : AreBlanks blanks) :
    readYear (blanks ++ text) = readYear text := by
  unfold readYear
  rw [trimLeft_blanks areBlanks]

theorem SpellsPart.read {part greatest : Nat} (spells : SpellsPart text part)
    (positive : 1 ≤ part) (most : part ≤ greatest)
    (stops : ∀ c ∈ rest.head?, isDigit c = false) :
    readPart greatest (text ++ rest) = .ok (part, rest) := by
  obtain ⟨⟨nonempty, digits⟩, short, value⟩ := spells
  rw [readPart_append rest nonempty digits short (.inr stops), value,
    if_pos ⟨positive, most⟩]

theorem isDigit_head?_hyphen :
    ∀ c ∈ ('-' :: rest).head?, isDigit c = false := by
  intro c mark
  cases mark
  rfl

theorem SpellsYear.read {year : Int} (spells : SpellsYear text year)
    (least : minYear ≤ year) (greatest : year ≤ maxYear) :
    readYear (text ++ '-' :: rest) = .ok (year, '-' :: rest) := by
  unfold minYear at least
  unfold maxYear at greatest
  cases spells with
  | unsigned isNumber short =>
      obtain ⟨nonempty, digits⟩ := isNumber
      exact readYear_unsigned _ nonempty digits short
        (.inr (isDigit_head?_hyphen rest)) (by omega)
  | positive isNumber =>
      obtain ⟨nonempty, digits⟩ := isNumber
      exact (readYear_signed rest nonempty digits (by omega)).2
  | negative isNumber =>
      obtain ⟨nonempty, digits⟩ := isNumber
      exact (readYear_signed rest nonempty digits (by omega)).1

end

/-! ## The reader and the grammar -/

section

variable {text rest front : List Char} {year : Int} {month : Nat} {date : Date}

/-- Read a year and a month. -/
def readMonth (text : List Char) :
    Except DayFault (Int × Nat × List Char) := do
  let (year, rest) ← readYear text
  let rest ← readHyphen rest
  let (month, rest) ← readPart 12 rest
  return (year, month, rest)

theorem readDate_eq (text : List Char) :
    readDate text = readMonth text >>=
      fun (year, month, rest) => readDay year month rest := by
  unfold readDate readMonth
  simp only [bind_assoc, pure_bind]
  rfl

theorem exists_of_readMonth
    (read : readMonth text = .ok (year, month, rest)) :
    ∃ front, text = front ++ rest ∧ SpellsMonth front year month ∧
      1 ≤ month ∧ month ≤ 12 := by
  obtain ⟨⟨ownYear, behindYear⟩, yearRead, read⟩ := bind_eq_ok_iff.mp read
  obtain ⟨behindHyphen, hyphenRead, read⟩ := bind_eq_ok_iff.mp read
  obtain ⟨⟨ownMonth, behindMonth⟩, monthRead, read⟩ :=
    bind_eq_ok_iff.mp read
  cases read
  obtain ⟨before, yearText, rfl, blanks, spellsYear⟩ :=
    exists_of_readYear yearRead
  obtain ⟨between, monthText, rfl, moreBlanks, spellsMonth, bounds⟩ :=
    exists_of_readPart monthRead
  obtain rfl := eq_of_readHyphen hyphenRead
  refine ⟨_, ?_, .intro blanks spellsYear moreBlanks spellsMonth, bounds⟩
  simp only [List.append_assoc, List.cons_append]

theorem SpellsMonth.read (spells : SpellsMonth front year month)
    (least : minYear ≤ year) (greatest : year ≤ maxYear)
    (positive : 1 ≤ month) (most : month ≤ 12) (rest : List Char) :
    readMonth (front ++ '-' :: rest) = .ok (year, month, '-' :: rest) := by
  obtain ⟨blanks, spellsYear, moreBlanks, spellsMonth⟩ := spells
  have hyphen (rest : List Char) : readHyphen ('-' :: rest) = .ok rest := rfl
  have next {α β : Type} (value : α) (read : α → Except DayFault β) :
      (Except.ok value >>= read) = read value := rfl
  unfold readMonth
  simp only [List.append_assoc, List.cons_append, readYear_blanks blanks,
    spellsYear.read _ least greatest, next, hyphen,
    readPart_blanks moreBlanks,
    spellsMonth.read _ positive most (isDigit_head?_hyphen rest)]
  rfl

theorem exists_of_readDay (read : readDay year month text = .ok date) :
    ∃ blanks own, text = '-' :: (blanks ++ own) ∧ AreBlanks blanks ∧
      SpellsPart own date.day ∧ date.year = year ∧ date.month = month := by
  obtain ⟨behindHyphen, hyphenRead, next⟩ := bind_eq_ok_iff.mp read
  obtain ⟨⟨day, behindDay⟩, dayRead, last⟩ := bind_eq_ok_iff.mp next
  obtain ⟨blanks, own, split, areBlanks, spells, -⟩ :=
    exists_of_readPart dayRead
  have begins := eq_of_readHyphen hyphenRead
  dsimp only at last
  split_ifs at last with ended
  rw [List.isEmpty_iff] at ended
  rw [split, ended, List.append_nil] at begins
  unfold dayOf Date.ofParts? at last
  split_ifs at last
  cases last
  exact ⟨blanks, own, begins, areBlanks, spells, rfl, rfl⟩

theorem SpellsPart.readDay {blanks : List Char} (areBlanks : AreBlanks blanks)
    (spells : SpellsPart text date.day) :
    readDay date.year date.month ('-' :: (blanks ++ text)) = .ok date := by
  obtain ⟨-, -, positive, last⟩ := date.isDate
  have found : Date.ofParts? date.year date.month date.day = some date :=
    dif_pos date.isDate
  have read := spells.read [] positive (last.trans (Date.daysInMonth_le ..))
    nofun
  rw [List.append_nil, ← readPart_blanks areBlanks] at read
  rw [readDay_hyphen read, dayOf, found]

/-- The reader accepts the texts of days. -/
theorem readDate_eq_ok_iff :
    readDate text = .ok date ↔ SpellsDay text date := by
  rw [readDate_eq]
  constructor
  · intro read
    obtain ⟨⟨year, month, rest⟩, monthRead, dayRead⟩ :=
      bind_eq_ok_iff.mp read
    obtain ⟨front, rfl, spellsMonth, -⟩ := exists_of_readMonth monthRead
    obtain ⟨blanks, own, rfl, areBlanks, spellsDay, rfl, rfl⟩ :=
      exists_of_readDay dayRead
    exact .intro spellsMonth areBlanks spellsDay
  · intro spells
    obtain ⟨spellsMonth, areBlanks, spellsDay⟩ := spells
    obtain ⟨least, greatest, -, -⟩ := date.isDate
    rw [spellsMonth.read least greatest date.one_le_month date.month_le_twelve]
    exact spellsDay.readDay areBlanks

/-- What is left of blanks and a number without the blanks. -/
theorem trimLeft_number {blanks number : List Char}
    (areBlanks : AreBlanks blanks) (isNumber : IsNumber number)
    (rest : List Char) :
    trimLeft (blanks ++ (number ++ rest)) = number ++ rest := by
  have own : ∀ c ∈ number, isDateTimeChar c :=
    fun c member => isDateTimeChar_of_isDigit (isNumber.2 c member)
  rw [trimLeft_blanks areBlanks, trimLeft_append isNumber.1 own]

/-- A number of one digit goes on to one of two, which is another number. -/
theorem SpellsPart.ne_of_longer {part longer : Nat} {c : Char}
    {more : List Char} (spells : SpellsPart text part)
    (goesOn : SpellsPart (text ++ c :: more) longer) (positive : 1 ≤ longer) :
    isDigit c ∧ part ≠ longer := by
  obtain ⟨⟨nonempty, -⟩, -, rfl⟩ := spells
  obtain ⟨⟨-, digits⟩, short, rfl⟩ := goesOn
  have digit : isDigit c := digits c (by simp)
  obtain ⟨tens, others, rfl⟩ := List.exists_cons_of_ne_nil nonempty
  have one : others = [] ∧ more = [] := by
    simp only [List.cons_append, List.length_cons, List.length_append] at short
    constructor <;> apply List.eq_nil_of_length_eq_zero <;> omega
  obtain ⟨rfl, rfl⟩ := one
  have tenth := ofDigits_tens tens digit
  rw [List.singleton_append] at positive ⊢
  exact ⟨digit, by omega⟩

/-- A text of a day goes on to another one only by a second digit of the day,
which is another day then. -/
theorem SpellsDay.day_ne_of_longer {c : Char} {more : List Char}
    {longer : Date} (spells : SpellsDay text date)
    (goesOn : SpellsDay (text ++ c :: more) longer) :
    isDigit c ∧ date.day ≠ longer.day := by
  generalize whole : text ++ c :: more = all at goesOn
  obtain ⟨spellsMonth, areBlanks, spellsDay⟩ := spells
  obtain ⟨otherMonth, otherBlanks, otherDay⟩ := goesOn
  -- Both have the same month, so the one day's text begins the other's.
  have read := spellsMonth.read date.isDate.1 date.isDate.2.1
    date.one_le_month date.month_le_twelve
  have otherRead := otherMonth.read longer.isDate.1 longer.isDate.2.1
    longer.one_le_month longer.month_le_twelve
  rw [List.append_assoc, List.cons_append, List.append_assoc] at whole
  have same := (read _).symm.trans ((congrArg readMonth whole).trans
    (otherRead _))
  have behind := congrArg (trimLeft ·.2.2.tail) (Except.ok.inj same)
  have own := trimLeft_number otherBlanks otherDay.isNumber []
  simp only [List.append_nil] at own
  simp only [List.tail_cons, own,
    trimLeft_number areBlanks spellsDay.isNumber] at behind
  rw [← behind] at otherDay
  exact spellsDay.ne_of_longer otherDay longer.isDate.2.2.1

end

end SqlExpr.Calendar.DayText
