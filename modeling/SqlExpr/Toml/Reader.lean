import SqlExpr.Toml.Basic
import SqlExpr.Toml.Scalar

/-!
# Reading TOML

A reader that turns a text into its statements.  Whether the statements agree
with each other is decided when the document is put together.  Values are
nested at most 80 deep, and a key has at most 80 parts.
-/

namespace SqlExpr.Toml

open SqlExpr.Number

/-! ## Blanks and comments -/

def isGap (c : Char) : Bool := c == ' ' || c == '\t'

def skipGap (text : List Char) : List Char := text.dropWhile isGap

/-- The controls that may stand neither in strings nor in comments. -/
def isForbidden (c : Char) : Bool :=
  (c.toNat < 32 && c != '\t') || c.toNat == 127

/-- Read the end of a line, if there is one here. -/
def readNewline? : List Char → Option (List Char)
  | '\n' :: rest => some rest
  | '\r' :: '\n' :: rest => some rest
  | _ => none

/-- A text from the end of its first line on. -/
def dropLine : List Char → List Char
  | '\r' :: '\n' :: rest => '\r' :: '\n' :: rest
  | '\n' :: rest => '\n' :: rest
  | _ :: rest => dropLine rest
  | [] => []

/-- The characters of a text before the end of its first line. -/
def takeLine : List Char → List Char
  | '\r' :: '\n' :: _ => []
  | '\n' :: _ => []
  | c :: rest => c :: takeLine rest
  | [] => []

/-- Skip blanks and a comment up to the end of the line. -/
def skipComment (text : List Char) : Option (List Char) :=
  match skipGap text with
  | '#' :: rest =>
    if (takeLine rest).any isForbidden then none else some (dropLine rest)
  | rest => some rest

/-- Skip blanks, comments and line ends, at most `fuel` lines of them. -/
def skipLines (fuel : Nat) (text : List Char) : Option (List Char) :=
  match fuel with
  | 0 => none
  | fuel + 1 => do
    let rest ← skipComment text
    match readNewline? rest with
    | some rest => skipLines fuel rest
    | none => return rest

/-! ## Strings -/

/-- Read a character given by hexadecimal digits of a fixed count. -/
def readCode (width : Nat) (text : List Char) : Option (Char × List Char) := do
  let digits ← (text.take width).mapM hexValue?
  let code := digits.foldl (fun value digit => 16 * value + digit) 0
  if digits.length = width ∧ code.isValidChar then
    some (Char.ofNat code, text.drop width)
  else
    none

/-- Read an escape after its backslash. -/
def readEscape : List Char → Option (Char × List Char)
  | 'b' :: rest => some ('\x08', rest)
  | 't' :: rest => some ('\t', rest)
  | 'n' :: rest => some ('\n', rest)
  | 'f' :: rest => some ('\x0c', rest)
  | 'r' :: rest => some ('\r', rest)
  | 'e' :: rest => some ('\x1b', rest)
  | '"' :: rest => some ('"', rest)
  | '\\' :: rest => some ('\\', rest)
  | 'x' :: rest => readCode 2 rest
  | 'u' :: rest => readCode 4 rest
  | 'U' :: rest => readCode 8 rest
  | _ => none

/-- Prepend a character to a string that is read. -/
def consTo (c : Char) : List Char × List Char → List Char × List Char
  | (read, rest) => (c :: read, rest)

/-- Read a string of one line after its opening mark.  Escapes are read when
`escapes` holds. -/
def readShort (escapes : Bool) (mark : Char) (fuel : Nat) (text : List Char) :
    Option (List Char × List Char) :=
  match fuel, text with
  | 0, _ => none
  | _, [] => none
  | fuel + 1, c :: rest =>
    if c = mark then some ([], rest)
    else if escapes ∧ c = '\\' then do
      let (c, rest) ← readEscape rest
      (readShort escapes mark fuel rest).map (consTo c)
    else if isForbidden c then none
    else (readShort escapes mark fuel rest).map (consTo c)

/-- Skip blanks and line ends. -/
def skipBlank : List Char → List Char
  | '\r' :: '\n' :: rest => skipBlank rest
  | c :: rest => if isGap c || c == '\n' then skipBlank rest else c :: rest
  | [] => []

/-- Skip a backslash's line end and the blanks and line ends that follow it. -/
def skipFolded? (text : List Char) : Option (List Char) :=
  (readNewline? (skipGap text)).map skipBlank

/-- Read a string of several lines after its opening marks.  It ends with three
marks, before which one or two marks may still belong to the string. -/
def readLong (escapes : Bool) (mark : Char) (fuel : Nat) (text : List Char) :
    Option (List Char × List Char) :=
  match fuel, text with
  | 0, _ => none
  | _, [] => none
  | fuel + 1, c :: rest =>
    let marks := ((c :: rest).takeWhile (· == mark)).length
    if 3 ≤ marks then
      let kept := min (marks - 3) 2
      some (List.replicate kept mark, (c :: rest).drop (kept + 3))
    else if escapes ∧ c = '\\' then
      match skipFolded? rest with
      | some rest => readLong escapes mark fuel rest
      | none => do
        let (c, rest) ← readEscape rest
        (readLong escapes mark fuel rest).map (consTo c)
    else
      match readNewline? (c :: rest) with
      | some rest => (readLong escapes mark fuel rest).map (consTo '\n')
      | none =>
        if isForbidden c then none
        else (readLong escapes mark fuel rest).map (consTo c)

/-- A text without the line end that begins it. -/
def dropNewline (text : List Char) : List Char :=
  (readNewline? text).getD text

/-- Read a string of any kind. -/
def readString : List Char → Option (String × List Char)
  | '"' :: '"' :: '"' :: rest =>
    finish (readLong true '"' (rest.length + 1) (dropNewline rest))
  | '\'' :: '\'' :: '\'' :: rest =>
    finish (readLong false '\'' (rest.length + 1) (dropNewline rest))
  | '"' :: rest => finish (readShort true '"' (rest.length + 1) rest)
  | '\'' :: rest => finish (readShort false '\'' (rest.length + 1) rest)
  | _ => none
where
  finish (read? : Option (List Char × List Char)) :
      Option (String × List Char) :=
    read?.map fun (text, rest) => (String.ofList text, rest)

/-! ## Keys -/

/-- The characters of a key without quotes. -/
def isBareKey (c : Char) : Bool :=
  isDigit c || ('a' ≤ c && c ≤ 'z') || ('A' ≤ c && c ≤ 'Z') || c == '_' ||
    c == '-'

/-- Read one part of a key. -/
def readKey (text : List Char) : Option (String × List Char) :=
  match text with
  | '"' :: rest => readShort true '"' (rest.length + 1) rest |>.map finish
  | '\'' :: rest => readShort false '\'' (rest.length + 1) rest |>.map finish
  | text =>
    let key := text.takeWhile isBareKey
    if key.isEmpty then none
    else some (String.ofList key, text.dropWhile isBareKey)
where
  finish : List Char × List Char → String × List Char
    | (key, rest) => (String.ofList key, rest)

/-- Read the parts of a key between dots, at most `room` of them, and the blanks
after it. -/
def readParts (room : Nat) (text : List Char) :
    Option (List String × List Char) :=
  match room with
  | 0 => none
  | room + 1 => do
    let (key, rest) ← readKey (skipGap text)
    match skipGap rest with
    | '.' :: rest =>
      let (path, rest) ← readParts room rest
      return (key :: path, rest)
    | rest => return ([key], rest)

/-- How many parts a key may have. -/
def maxParts : Nat := 80

/-- Read a whole key and the blanks after it. -/
def readPath (text : List Char) : Option (List String × List Char) :=
  readParts maxParts text

/-! ## Values -/

/-- How many brackets and braces may stand around a value. -/
def maxDepth : Nat := 80

mutual

/-- Read a value that may open `room` brackets and braces within each other. -/
def readValue (room fuel : Nat) (text : List Char) :
    Option (Literal × List Char) :=
  match fuel with
  | 0 => none
  | fuel + 1 =>
    match text with
    | '"' :: _ | '\'' :: _ =>
      (readString text).map fun (text, rest) => (.string text, rest)
    | '[' :: rest => do
      if room = 0 then none
      match ← skipLines (rest.length + 1) rest with
      | ']' :: rest => return (.array [], rest)
      | rest =>
        let (items, rest) ← readItems (room - 1) fuel rest
        return (.array items, rest)
    | '\x7b' :: rest => do
      if room = 0 then none
      match ← skipLines (rest.length + 1) rest with
      | '\x7d' :: rest => return (.table [], rest)
      | rest =>
        let (entries, rest) ← readEntries (room - 1) fuel rest
        return (.table entries, rest)
    | _ =>
      (readScalar text).map fun (inRange, rest) => (.scalar inRange, rest)

/-- Read the items of an array and its closing bracket. -/
def readItems (room fuel : Nat) (text : List Char) :
    Option (List Literal × List Char) :=
  match fuel with
  | 0 => none
  | fuel + 1 => do
    let (item, rest) ← readValue room fuel text
    match ← skipLines (rest.length + 1) rest with
    | ']' :: rest => return ([item], rest)
    | ',' :: rest =>
      match ← skipLines (rest.length + 1) rest with
      | ']' :: rest => return ([item], rest)
      | rest =>
        let (items, rest) ← readItems room fuel rest
        return (item :: items, rest)
    | _ => none

/-- Read the entries of an inline table and its closing brace.  Lines may end
anywhere in it but within a key. -/
def readEntries (room fuel : Nat) (text : List Char) :
    Option (List (List String × Literal) × List Char) :=
  match fuel with
  | 0 => none
  | fuel + 1 => do
    let (path, rest) ← readPath text
    let rest ← readMark '=' (← skipLines (rest.length + 1) rest)
    let rest ← skipLines (rest.length + 1) rest
    let (value, rest) ← readValue room fuel rest
    match ← skipLines (rest.length + 1) rest with
    | '\x7d' :: rest => return ([(path, value)], rest)
    | ',' :: rest =>
      match ← skipLines (rest.length + 1) rest with
      | '\x7d' :: rest => return ([(path, value)], rest)
      | rest =>
        let (entries, rest) ← readEntries room fuel rest
        return ((path, value) :: entries, rest)
    | _ => none

end

/-! ## Statements -/

/-- Read a statement without what follows it on its line. -/
def readStatement (text : List Char) : Option (Statement × List Char) := do
  match text with
  | '[' :: '[' :: rest =>
    let (path, rest) ← readPath rest
    match rest with
    | ']' :: ']' :: rest => return (.element path, rest)
    | _ => none
  | '[' :: rest =>
    let (path, rest) ← readPath rest
    match rest with
    | ']' :: rest => return (.table path, rest)
    | _ => none
  | text =>
    let (path, rest) ← readPath text
    let rest ← readMark '=' rest
    let (value, rest) ← readValue maxDepth (2 * rest.length + 2)
      (skipGap rest)
    return (.entry path value, rest)

/-- Read statements, one a line, up to the end of the text. -/
def readStatements (fuel : Nat) (text : List Char) : Option (List Statement) :=
  match fuel with
  | 0 => none
  | fuel + 1 => do
    match ← skipLines (text.length + 1) text with
    | [] => return []
    | rest =>
      let (statement, rest) ← readStatement rest
      let rest ← skipComment rest
      match readNewline? rest with
      | some rest => return statement :: (← readStatements fuel rest)
      | none => if rest.isEmpty then return [statement] else none

/-- Read all statements of a text. -/
def readText (text : String) : Option (List Statement) :=
  let text := text.toList
  let text := if text.head? == some '\ufeff' then text.drop 1 else text
  readStatements (text.length + 1) text

end SqlExpr.Toml
