import SqlExpr.Calendar.Date
import SqlExpr.Number.Binary64

/-!
# TOML scalars

Which words are truth values, numbers, dates or times, and which numbers have a
value.  The word of a number is read without asking for its value: letters may
follow an underscore in a decimal number, and the mark of a base needs no
digits.  A whole number has a value if all of it are digits of its base and it
fits into 128 bits, a float if it does not round to infinity.
-/

namespace SqlExpr.Toml

open SqlExpr.Calendar SqlExpr.Number

/-- Whether every underscore stands directly between two digits, which are the
characters with `isOne`.  `behind` tells whether a digit stands before the
text. -/
def underscoresFit (isOne : Char → Bool) (behind : Bool) : List Char → Bool
  | [] => true
  | c :: rest =>
    if c = '_' then
      behind && rest.head?.any isOne && underscoresFit isOne false rest
    else underscoresFit isOne (isOne c) rest

/-- A text without the sign that begins it. -/
def unsigned (text : List Char) : List Char := (readSign text).2

/-- Whether the underscores of a number stand between its digits, or after its
sign. -/
def isSeparated (isOne : Char → Bool) (text : List Char) : Bool :=
  let rest := unsigned text
  underscoresFit isOne (rest.length < text.length) rest

/-- A number without its underscores. -/
def withoutUnderscores (text : List Char) : List Char := text.filter (· != '_')

/-! ## Whole numbers -/

/-- The value of a digit in a base of at most 16. -/
def digitOf? (base : Nat) (c : Char) : Option Nat :=
  (hexValue? c).filter (· < base)

/-- The number that one or more digits of a base denote. -/
def natural? (base : Nat) (text : List Char) : Option Nat :=
  if text.isEmpty then none
  else text.foldlM (fun value c => (digitOf? base c).map (base * value + ·)) 0

/-- The base that the mark before the digits of a whole number gives. -/
def markedBase? : List Char → Option (Nat × List Char)
  | '0' :: 'x' :: rest => some (16, rest)
  | '0' :: 'o' :: rest => some (8, rest)
  | '0' :: 'b' :: rest => some (2, rest)
  | _ => none

/-- Whether a word is that of a whole number: a marked base and its digits, if
any, or decimal digits that do not begin with a zero unless they are a zero.
What follows an underscore may be anything that makes no float. -/
def isInteger (text : List Char) : Bool :=
  let isHex (c : Char) : Bool := (hexValue? c).isSome
  match markedBase? text with
  | some (base, rest) =>
    (withoutUnderscores rest).all (fun c => (digitOf? base c).isSome) &&
      underscoresFit isHex false rest
  | none =>
    let rest := unsigned text
    let isTail : List Char → Bool
      | [] => !rest.isEmpty
      | c :: tail =>
        c == '_' && tail.all fun c => c != '.' && c != 'e' && c != 'E'
    isSeparated isHex text &&
      (rest == ['0'] ||
        (rest.head? != some '0' && isTail (rest.dropWhile isDigit)))

/-- Whether the word of a whole number has a value in 128 bits, of which a
negative number needs one for its sign. -/
def integerInRange (text : List Char) : Bool :=
  let text := withoutUnderscores text
  match markedBase? text with
  | some (base, rest) => (natural? base rest).any (· < Nat.pow 2 128)
  | none =>
    let (negative, rest) := readSign text
    (natural? 10 rest).any fun value =>
      if negative then value ≤ Nat.pow 2 127 else value < Nat.pow 2 128

/-! ## Floats -/

/-- Digits and underscores at the beginning of a text, and what follows them. -/
def spanDigits (text : List Char) : List Char × List Char :=
  text.span fun c => isDigit c || c == '_'

/-- Whether a text is an optional sign and digits, with underscores anywhere. -/
def isExponent (text : List Char) : Bool :=
  let (run, rest) := spanDigits (unsigned text)
  run.any isDigit && rest.isEmpty

/-- Whether a text is an exponent after its mark. -/
def isMarkedExponent : List Char → Bool
  | c :: rest => (c == 'e' || c == 'E') && isExponent rest
  | [] => false

/-- Whether a word is that of a float: a number with a fraction, an exponent or
both, or the name of one that is not finite.  A zero begins digits before the
point only if it is the one digit there. -/
def isFloat (text : List Char) : Bool :=
  let rest := unsigned text
  let (whole, tail) := spanDigits rest
  rest == ['i', 'n', 'f'] || rest == ['n', 'a', 'n'] ||
    (isSeparated isDigit text && whole.any isDigit &&
      (whole.head? != some '0' || whole.countP isDigit == 1) &&
      match tail with
      | '.' :: tail =>
        let (fraction, tail) := spanDigits tail
        fraction.any isDigit && (tail.isEmpty || isMarkedExponent tail)
      | tail => isMarkedExponent tail)

/-- Whether the number nearest to a float is finite, or the float is the name of
one that is not. -/
def floatInRange (text : List Char) : Bool :=
  match Numeral.read? (withoutUnderscores text) with
  | some numeral => (Binary64.ofNumeral numeral).isFinite
  | none => true

/-! ## Dates and times -/

/-- Read a number of exactly `width` digits. -/
def readFixed (width : Nat) (text : List Char) : Option (Nat × List Char) :=
  let digits := text.take width
  if digits.length = width ∧ digits.all isDigit then
    some (ofDigits digits, text.drop width)
  else
    none

/-- Read one given character. -/
def readMark (mark : Char) : List Char → Option (List Char)
  | c :: rest => if c = mark then some rest else none
  | [] => none

/-- Read a date and return what follows it. -/
def readDay (text : List Char) : Option (List Char) := do
  let (year, rest) ← readFixed 4 text
  let rest ← readMark '-' rest
  let (month, rest) ← readFixed 2 rest
  let rest ← readMark '-' rest
  let (day, rest) ← readFixed 2 rest
  if 1 ≤ day ∧ day ≤ daysInMonth year month then some rest else none

/-- Read hour and minute, and possibly seconds and their fraction. -/
def readTime (text : List Char) : Option (List Char) := do
  let (hour, rest) ← readFixed 2 text
  let rest ← readMark ':' rest
  let (minute, rest) ← readFixed 2 rest
  if 24 ≤ hour ∨ 60 ≤ minute then none
  match rest with
  | ':' :: rest =>
    let (second, rest) ← readFixed 2 rest
    if 60 < second then none
    match rest with
    | '.' :: rest =>
      if (rest.takeWhile isDigit).isEmpty then none
      else some (rest.dropWhile isDigit)
    | rest => some rest
  | rest => some rest

/-- Whether a text is the offset of a time from UTC, or no offset at all. -/
def isOffset : List Char → Bool
  | [] => true
  | ['Z'] | ['z'] => true
  | c :: rest =>
    (c == '+' || c == '-') &&
      match readFixed 2 rest with
      | some (hour, ':' :: rest) =>
        match readFixed 2 rest with
        | some (minute, []) => hour < 24 && minute < 60
        | _ => false
      | _ => false

/-- A date, a time, or both with or without an offset. -/
def isMoment (text : List Char) : Bool :=
  match readDay text with
  | some [] => true
  | some (c :: rest) =>
    (c == 'T' || c == 't' || c == ' ') &&
      match readTime rest with
      | some rest => isOffset rest
      | none => false
  | none => readTime text == some []

/-! ## Words -/

/-- Whether a word that is a truth value, a number, a date or a time has a value
in its format; other words are none of these. -/
def scalarInRange? (word : List Char) : Option Bool :=
  if isInteger word then some (integerInRange word)
  else if isFloat word then some (floatInRange word)
  else if word == ['t', 'r', 'u', 'e'] || word == ['f', 'a', 'l', 's', 'e'] ||
      isMoment word then
    some true
  else none

/-- Blanks, line ends and the marks that open, close or part values. -/
def wordEnds : List Char :=
  [' ', '\t', '\r', '\n', '#', '=', ',', '[', ']', '\x7b', '\x7d']

/-- The characters of scalar words. -/
def isWordChar (c : Char) : Bool := !wordEnds.contains c

/-- Read a scalar, and whether it has a value in its format.  A blank belongs to
it between a date and a time. -/
def readScalar (text : List Char) : Option (Bool × List Char) :=
  let word := text.takeWhile isWordChar
  let rest := text.dropWhile isWordChar
  match readDay word, rest with
  | some [], ' ' :: c :: rest =>
    if isDigit c then
      let time := (c :: rest).takeWhile isWordChar
      (scalarInRange? (word ++ ' ' :: time)).map fun inRange =>
        (inRange, (c :: rest).dropWhile isWordChar)
    else some (true, ' ' :: c :: rest)
  | _, rest => (scalarInRange? word).map fun inRange => (inRange, rest)

end SqlExpr.Toml
