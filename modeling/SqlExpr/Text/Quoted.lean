import SqlExpr.Text.CharacterSets

/-!
# Quoted and escaped text

A quoted text stands between two marks, and a mark inside of it is written
twice.  SQL quotes both its strings and its identifiers in this way.  Names
inside messages stand between double quotes, with every character that could
not be read there written as an escape.
-/

namespace SqlExpr.Text

/-- A text in which every occurrence of the mark is written twice. -/
def doubleMarks (mark : Char) : List Char → List Char
  | [] => []
  | c :: rest =>
    if c = mark then mark :: mark :: doubleMarks mark rest
    else c :: doubleMarks mark rest

/-- A text between two marks. -/
def quoted (mark : Char) (text : String) : String :=
  String.ofList (mark :: doubleMarks mark text.toList ++ [mark])

/-- Whether a text has a NUL character, which no quoted text may hold. -/
def hasNul (text : String) : Bool := text.toList.any (· == '\x00')

/-! ## Escapes -/

/-- The hexadecimal digits of a number, in lower case and without padding. -/
def hexadecimal (n : Nat) : String := String.ofList (Nat.toDigits 16 n)

/-- One character of an escaped text. -/
def escapeChar (c : Char) : String :=
  match c with
  | '\x00' => "\\0"
  | '\t' => "\\t"
  | '\n' => "\\n"
  | '\r' => "\\r"
  | '"' => "\\\""
  | '\\' => "\\\\"
  | c =>
    if isInvisible c then "\\u\x7b" ++ hexadecimal c.toNat ++ "\x7d"
    else c.toString

/-- A text between double quotes, fit to be read in a message. -/
def escaped (text : String) : String :=
  "\"" ++ String.join (text.toList.map escapeChar) ++ "\""

end SqlExpr.Text
