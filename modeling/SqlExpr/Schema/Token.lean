import SqlExpr.Number.Digits
import SqlExpr.Text.Pieces

/-!
# Tokens

Declarations are written as a row of names, literals and marks, between which
there may be blanks and comments.
-/

namespace SqlExpr.Schema

open SqlExpr.Number SqlExpr.Text

/-- A token of a declaration. -/
inductive Token where
  | name (text : String)
  /-- A string, with the text that it stands for. -/
  | text (value : String)
  /-- A number, or the digits of one up to its point. -/
  | number
  /-- A character, or a string that does not stand for a text. -/
  | literal
  /-- Two colons. -/
  | colons
  /-- Any other character. -/
  | mark (symbol : Char)
  deriving DecidableEq, Repr

/-! ## Blanks and comments -/

/-- A blank, or a mark that only turns the direction of writing. -/
def isSpace (c : Char) : Bool :=
  isBlank c || c == '\u200e' || c == '\u200f'

/-- What is before the end of a comment within `depth` others, and what is after
it. -/
def splitBlock (depth : Nat) : List Char → List Char × List Char
  | '*' :: '/' :: rest =>
    if depth = 0 then ([], rest)
    else (splitBlock (depth - 1) rest).map ('*' :: '/' :: ·) id
  | '/' :: '*' :: rest =>
    (splitBlock (depth + 1) rest).map ('/' :: '*' :: ·) id
  | c :: rest => (splitBlock depth rest).map (c :: ·) id
  | [] => ([], [])

/-- The attribute that a comment stands for which documents an item, or if
`inner` holds, what is around it. -/
def documentation (inner : Bool) (text : List Char) : List Token :=
  .mark '#' :: ((if inner then [.mark '!'] else []) ++
    [.mark '[', .name "doc", .mark '=', .text (String.ofList text), .mark ']'])

/-- The tokens that the contents of a comment on a line stand for. -/
def lineTokens : List Char → List Token
  | '!' :: text => documentation true text
  | '/' :: '/' :: _ => []
  | '/' :: text => documentation false text
  | _ => []

/-- The tokens that the contents of a comment between marks stand for. -/
def blockTokens : List Char → List Token
  | '!' :: text => documentation true text
  | ['*'] => []
  | '*' :: '*' :: _ => []
  | '*' :: text => documentation false text
  | _ => []

/-- The tokens of a comment, if there is one here, and what follows it. -/
def readComment? : List Char → Option (List Token × List Char)
  | '/' :: '/' :: rest =>
    some (lineTokens (rest.takeWhile (· != '\n')),
      rest.dropWhile (· != '\n'))
  | '/' :: '*' :: rest =>
    let (block, rest) := splitBlock 0 rest
    some (blockTokens block, rest)
  | _ => none

/-! ## Literals -/

/-- The contents of a string up to its closing mark, escapes and all, and what
follows it. -/
def readQuoted? : List Char → Option (List Char × List Char)
  | [] => none
  | '"' :: rest => some ([], rest)
  | '\\' :: c :: rest =>
    (readQuoted? rest).map fun (text, rest) => ('\\' :: c :: text, rest)
  | c :: rest => (readQuoted? rest).map fun (text, rest) => (c :: text, rest)

/-- The contents of a string without escapes up to its closing mark, after which
stand `hashes` number signs. -/
def readUntil? (hashes : Nat) : List Char → Option (List Char × List Char)
  | [] => none
  | c :: rest =>
    if c = '"' ∧ rest.take hashes = List.replicate hashes '#' then
      some ([], rest.drop hashes)
    else
      (readUntil? hashes rest).map fun (text, rest) => (c :: text, rest)

/-- Read a string without escapes from the number signs before it on. -/
def readRaw? (text : List Char) : Option (List Char × List Char) :=
  match text.dropWhile (· == '#') with
  | '"' :: rest => readUntil? (text.takeWhile (· == '#')).length rest
  | _ => none

/-- Skip a character and its closing mark. -/
def skipCharacter? : List Char → Option (List Char)
  | '\\' :: _ :: rest =>
    match rest.dropWhile (· != '\'') with
    | _ :: rest => some rest
    | [] => none
  | c :: '\'' :: rest => if c = '\'' then none else some rest
  | _ => none

/-- The character with the given hexadecimal digits. -/
def charOfDigits (text : List Char) : Char :=
  Char.ofNat <| text.foldl
    (fun value c =>
      match hexValue? c with
      | some digit => 16 * value + digit
      | none => value)
    0

/-- The text that the contents of a string stand for.  Every step uses up a
character, so their number suffices as fuel. -/
def unescape (fuel : Nat) (text : List Char) : List Char :=
  match fuel, text with
  | 0, text => text
  | _, [] => []
  | fuel + 1, '\\' :: c :: rest =>
    match c, rest with
    | 'n', rest => '\n' :: unescape fuel rest
    | 'r', rest => '\r' :: unescape fuel rest
    | 't', rest => '\t' :: unescape fuel rest
    | '0', rest => '\x00' :: unescape fuel rest
    | '\n', rest | '\r', rest => unescape fuel (rest.dropWhile isBlank)
    | 'x', a :: b :: rest => charOfDigits [a, b] :: unescape fuel rest
    | 'u', rest =>
      charOfDigits (rest.takeWhile (· != '\x7d')) ::
        unescape fuel ((rest.dropWhile (· != '\x7d')).drop 1)
    | c, rest => c :: unescape fuel rest
  | fuel + 1, '\r' :: '\n' :: rest => '\n' :: unescape fuel rest
  | fuel + 1, c :: rest => c :: unescape fuel rest

/-- Read a literal in quotation marks, possibly with letters before them. -/
def readLiteral? : List Char → Option (Token × List Char)
  | '"' :: rest =>
    (readQuoted? rest).map fun (text, rest) =>
      (.text (String.ofList (unescape text.length text)), rest)
  | 'r' :: rest =>
    (readRaw? rest).map fun (text, rest) => (.text (String.ofList text), rest)
  | 'b' :: '"' :: rest | 'c' :: '"' :: rest =>
    (readQuoted? rest).map fun (_, rest) => (.literal, rest)
  | 'b' :: 'r' :: rest | 'c' :: 'r' :: rest =>
    (readRaw? rest).map fun (_, rest) => (.literal, rest)
  | 'b' :: '\'' :: rest | '\'' :: rest =>
    (skipCharacter? rest).map fun rest => (.literal, rest)
  | _ => none

/-! ## Names and marks -/

/-- The characters of names.  Beyond ASCII these are all that can be seen. -/
def isNameChar (c : Char) : Bool :=
  isDigit c || ('a' ≤ c && c ≤ 'z') || ('A' ≤ c && c ≤ 'Z') || c == '_' ||
    (128 ≤ c.toNat && !isSpace c)

/-- Read a name, which a mark may keep from being a keyword. -/
def readName? : List Char → Option (Token × List Char)
  | 'r' :: '#' :: c :: rest =>
    if isNameChar c then
      let name := 'r' :: '#' :: (c :: rest).takeWhile isNameChar
      some (.name (String.ofList name), (c :: rest).dropWhile isNameChar)
    else some (.name "r", '#' :: c :: rest)
  | c :: rest =>
    if isNameChar c then
      some (.name (String.ofList ((c :: rest).takeWhile isNameChar)),
        (c :: rest).dropWhile isNameChar)
    else none
  | [] => none

/-- A text without the name that begins it, which belongs to the literal before
it. -/
def dropSuffix : List Char → List Char
  | c :: rest =>
    if isNameChar c && !isDigit c then rest.dropWhile isNameChar else c :: rest
  | [] => []

/-- The tokens of a text, at most `fuel` of them. -/
def scan (fuel : Nat) (text : List Char) : List Token :=
  match fuel, text with
  | 0, _ => []
  | _, [] => []
  | fuel + 1, c :: rest =>
    if isSpace c then scan fuel rest
    else if isDigit c then .number :: scan fuel (rest.dropWhile isNameChar)
    else
      match readComment? (c :: rest) with
      | some (tokens, rest) => tokens ++ scan fuel rest
      | none =>
        match readLiteral? (c :: rest) with
        | some (token, rest) => token :: scan fuel (dropSuffix rest)
        | none =>
          match readName? (c :: rest) with
          | some (token, rest) => token :: scan fuel rest
          | none =>
            match c, rest with
            | ':', ':' :: rest => .colons :: scan fuel rest
            | c, rest => .mark c :: scan fuel rest

/-- The tokens of a text. -/
def tokens (text : String) : List Token := scan text.length text.toList

/-- Whether a token is an opening bracket. -/
def Token.opens (token : Token) : Bool :=
  token == .mark '(' || token == .mark '[' || token == .mark '\x7b'

/-- Whether a token is a closing bracket. -/
def Token.closes (token : Token) : Bool :=
  token == .mark ')' || token == .mark ']' || token == .mark '\x7d'

/-- The tokens up to the bracket that closes the one before them, while `depth`
others are open, and the tokens after it. -/
def splitClosed (depth : Nat) : List Token → List Token × List Token
  | [] => ([], [])
  | token :: rest =>
    if token.closes then
      match depth with
      | 0 => ([], rest)
      | depth + 1 => ((splitClosed depth rest).map (token :: ·) id)
    else
      (splitClosed (if token.opens then depth + 1 else depth) rest).map
        (token :: ·) id

end SqlExpr.Schema
