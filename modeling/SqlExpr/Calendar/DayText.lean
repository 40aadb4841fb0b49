import SqlExpr.Calendar.Date
import SqlExpr.Text.Pieces

/-!
# Days in texts

A day may be given as a text: year, month and day joined by hyphens, possibly
with a time after it.  Blanks around the text are dropped and no more than its
first ten bytes are read, unless they end within a character.  Each number may
have blanks before it; an unsigned year has at most four digits, a signed one
any number of them, months and days at most two.
-/

namespace SqlExpr.Calendar

open SqlExpr.Number SqlExpr.Text

/-- Why a text is not a day. -/
inductive DayFault where
  | prematureEnd
  | invalidCharacters
  | outOfRange
  | trailingInput
  deriving DecidableEq, Repr

def DayFault.message : DayFault → String
  | prematureEnd => "premature end of input"
  | invalidCharacters => "input contains invalid characters"
  | outOfRange => "input is out of range"
  | trailingInput => "trailing input"

namespace DayText

/-- The beginning of a text with exactly `size` bytes, if a character ends
there. -/
def leadingBytes? : Nat → List Char → Option (List Char)
  | 0, _ => some []
  | _, [] => none
  | size + 1, c :: rest =>
    if c.utf8Size ≤ size + 1 then
      (leadingBytes? (size + 1 - c.utf8Size) rest).map (c :: ·)
    else
      none

/-- The part of a text in which a day is looked for. -/
def datePart (text : List Char) : List Char :=
  (leadingBytes? 10 text).getD text

/-- Read the digits at the beginning of a text, at least one and at most
`width` of them. -/
def readNumber (width : Nat) (text : List Char) :
    Except DayFault (Nat × List Char) :=
  let digits := (text.takeWhile isDigit).take width
  if text.isEmpty then throw .prematureEnd
  else if digits.isEmpty then throw .invalidCharacters
  else return (ofDigits digits, text.drop digits.length)

/-- Read a year that fits in 32 bits. -/
def readYear (text : List Char) : Except DayFault (Int × List Char) := do
  let (year, rest) ←
    match trimLeft text with
    | '-' :: unsigned => do
      let (year, rest) ← readNumber unsigned.length unsigned
      pure (-(year : Int), rest)
    | '+' :: unsigned => do
      let (year, rest) ← readNumber unsigned.length unsigned
      pure ((year : Int), rest)
    | unsigned => do
      let (year, rest) ← readNumber 4 unsigned
      pure ((year : Int), rest)
  if -2147483648 ≤ year ∧ year ≤ 2147483647 then return (year, rest)
  else throw .outOfRange

/-- Read a number of one or two digits between 1 and `greatest`. -/
def readPart (greatest : Nat) (text : List Char) :
    Except DayFault (Nat × List Char) := do
  let (part, rest) ← readNumber 2 (trimLeft text)
  if 1 ≤ part ∧ part ≤ greatest then return (part, rest)
  else throw .outOfRange

def readHyphen : List Char → Except DayFault (List Char)
  | [] => throw .prematureEnd
  | '-' :: rest => return rest
  | _ => throw .invalidCharacters

/-- Read a day that takes up the whole text. -/
def readDate (text : List Char) : Except DayFault Date := do
  let (year, rest) ← readYear text
  let rest ← readHyphen rest
  let (month, rest) ← readPart 12 rest
  let rest ← readHyphen rest
  let (day, rest) ← readPart 31 rest
  if rest.isEmpty then
    match Date.ofParts? year month day with
    | some date => return date
    | none => throw .outOfRange
  else
    throw .trailingInput

/-- The day that a text without blanks around it begins with. -/
def read (text : List Char) : Except DayFault Date := readDate (datePart text)

end DayText

end SqlExpr.Calendar
