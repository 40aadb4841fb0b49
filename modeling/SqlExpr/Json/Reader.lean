import SqlExpr.Json.Basic

/-!
# Reading JSON

A reader for JSON text.  Whole numbers from `-2 ^ 63` to `2 ^ 64 - 1` stay whole
numbers; minus zero, every other whole number and every number with a point or
an exponent is the float nearest to it, and is refused when it is too large to
have one.
-/

namespace SqlExpr.Json

open SqlExpr.Number

/-! ## Numbers -/

/-- The float nearest to a numeral; there is none for a numeral that is too
large. -/
def floatOfNumeral (numeral : Numeral) : Option Json :=
  let value := Binary64.ofNumeral numeral
  if value.isFinite then some (float value) else none

/-- The number with the given sign and digits, without point and exponent. -/
def numberOfDigits (negative : Bool) (whole : List Char) : Option Json :=
  let value := ofDigits whole
  if negative ∧ 0 < value ∧ value ≤ Nat.pow 2 63 then
    some (integer (-(value : Int)))
  else if !negative ∧ value < Nat.pow 2 64 then some (integer value)
  else floatOfNumeral ⟨negative, value, 0⟩

/-- Read the digits after an exponent mark. -/
def readExponent (text : List Char) : Option (Int × List Char) :=
  let (negative, rest) := readSign text
  let digits := rest.takeWhile isDigit
  if digits.isEmpty then none
  else
    let exponent : Int := ofDigits digits
    some (if negative then -exponent else exponent, rest.dropWhile isDigit)

/-- Read a number. -/
def readNumber (text : List Char) : Option (Json × List Char) := do
  let (negative, rest) :=
    match text with
    | '-' :: rest => (true, rest)
    | rest => (false, rest)
  let whole := rest.takeWhile isDigit
  if whole.isEmpty || (whole.head? == some '0' && whole.length != 1) then none
  let rest := rest.dropWhile isDigit
  let (fraction, afterFraction) :=
    match rest with
    | '.' :: rest => (rest.takeWhile isDigit, rest.dropWhile isDigit)
    | rest => ([], rest)
  if rest.head? == some '.' && fraction.isEmpty then none
  let (exponent, afterExponent) ←
    match afterFraction with
    | 'e' :: rest => (readExponent rest).map fun (e, rest) => (some e, rest)
    | 'E' :: rest => (readExponent rest).map fun (e, rest) => (some e, rest)
    | rest => some (none, rest)
  if fraction.isEmpty && exponent.isNone then
    return (← numberOfDigits negative whole, afterExponent)
  else
    let power := exponent.getD 0 - fraction.length
    let number ←
      floatOfNumeral ⟨negative, ofDigits (whole ++ fraction), power⟩
    return (number, afterExponent)

/-! ## Strings -/

/-- Read four hexadecimal digits. -/
def readHexFour : List Char → Option (Nat × List Char)
  | a :: b :: c :: d :: rest => do
    let value := (((← hexValue? a) * 16 + (← hexValue? b)) * 16 +
      (← hexValue? c)) * 16 + (← hexValue? d)
    return (value, rest)
  | _ => none

/-- Read the digits of a `\u` escape, and those of a second one when the first
is the upper half of a pair. -/
def readUnicodeEscape (text : List Char) : Option (Char × List Char) := do
  let (first, rest) ← readHexFour text
  if 0xD800 ≤ first ∧ first < 0xDC00 then
    match rest with
    | '\\' :: 'u' :: rest =>
      let (second, rest) ← readHexFour rest
      if 0xDC00 ≤ second ∧ second < 0xE000 then
        let code := 0x10000 + (first - 0xD800) * 0x400 + (second - 0xDC00)
        return (Char.ofNat code, rest)
      else none
    | _ => none
  else if 0xDC00 ≤ first ∧ first < 0xE000 then none
  else return (Char.ofNat first, rest)

/-- The character that a one-letter escape stands for. -/
def simpleEscape? : Char → Option Char
  | '"' => some '"'
  | '\\' => some '\\'
  | '/' => some '/'
  | 'b' => some '\x08'
  | 'f' => some '\x0c'
  | 'n' => some '\n'
  | 'r' => some '\r'
  | 't' => some '\t'
  | _ => none

/-- Read the rest of a string after its opening quotation mark.  `read` holds
the characters read so far in reverse, and `fuel` bounds their number. -/
def readString (fuel : Nat) (read : List Char) (text : List Char) :
    Option (String × List Char) :=
  match fuel, text with
  | 0, _ => none
  | _, [] => none
  | _ + 1, '"' :: rest => some (String.ofList read.reverse, rest)
  | fuel + 1, '\\' :: 'u' :: rest => do
    let (c, rest) ← readUnicodeEscape rest
    readString fuel (c :: read) rest
  | fuel + 1, '\\' :: c :: rest => do
    let c ← simpleEscape? c
    readString fuel (c :: read) rest
  | fuel + 1, c :: rest =>
    if c.toNat < 32 ∨ c = '\\' then none
    else readString fuel (c :: read) rest

/-! ## Documents -/

def isSpace (c : Char) : Bool :=
  c == ' ' || c == '\t' || c == '\n' || c == '\r'

def skipSpace (text : List Char) : List Char := text.dropWhile isSpace

mutual

/-- Read a document and return it with what follows it. -/
def readValue (fuel : Nat) (text : List Char) : Option (Json × List Char) :=
  match fuel with
  | 0 => none
  | fuel + 1 =>
    match skipSpace text with
    | 'n' :: 'u' :: 'l' :: 'l' :: rest => some (null, rest)
    | 't' :: 'r' :: 'u' :: 'e' :: rest => some (bool true, rest)
    | 'f' :: 'a' :: 'l' :: 's' :: 'e' :: rest => some (bool false, rest)
    | '"' :: rest =>
      (readString (rest.length + 1) [] rest).map fun (text, rest) =>
        (string text, rest)
    | '[' :: rest =>
      match skipSpace rest with
      | ']' :: rest => some (array [], rest)
      | rest =>
        (readItems fuel rest).map fun (items, rest) => (array items, rest)
    | '\x7b' :: rest =>
      match skipSpace rest with
      | '\x7d' :: rest => some (object [], rest)
      | rest =>
        (readMembers fuel rest).map fun (members, rest) =>
          (ofMembers members, rest)
    | text => readNumber text

/-- Read the items of an array and the bracket after them. -/
def readItems (fuel : Nat) (text : List Char) :
    Option (List Json × List Char) :=
  match fuel with
  | 0 => none
  | fuel + 1 => do
    let (item, rest) ← readValue fuel text
    match skipSpace rest with
    | ',' :: rest =>
      let (items, rest) ← readItems fuel rest
      return (item :: items, rest)
    | ']' :: rest => return ([item], rest)
    | _ => none

/-- Read the members of an object and the brace after them. -/
def readMembers (fuel : Nat) (text : List Char) :
    Option (List (String × Json) × List Char) :=
  match fuel with
  | 0 => none
  | fuel + 1 =>
    match skipSpace text with
    | '"' :: rest => do
      let (key, rest) ← readString (rest.length + 1) [] rest
      match skipSpace rest with
      | ':' :: rest =>
        let (value, rest) ← readValue fuel rest
        match skipSpace rest with
        | ',' :: rest =>
          let (members, rest) ← readMembers fuel rest
          return ((key, value) :: members, rest)
        | '\x7d' :: rest => return ([(key, value)], rest)
        | _ => none
      | _ => none
    | _ => none

end

/-- Read a document that takes up the whole text.  Every step down into a
document or along its parts reads a character, so twice the length suffices as
fuel. -/
def read? (text : String) : Option Json :=
  match readValue (2 * text.length + 2) text.toList with
  | some (document, rest) =>
    if (skipSpace rest).isEmpty then some document else none
  | none => none

end SqlExpr.Json
