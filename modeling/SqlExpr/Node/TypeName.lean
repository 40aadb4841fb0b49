import SqlExpr.Error
import SqlExpr.Name
import SqlExpr.Text.Pieces

/-!
# Type names

The names of SQL types are written as they are given, so they are checked
first.  A type name is a qualified name, or one of a few names of several
words, with modifiers in parentheses and with array brackets at the end.
-/

namespace SqlExpr.TypeName

open SqlExpr.Name SqlExpr.Text

/-- Where a reader of a type name stands: in the name, in the modifiers, in
array brackets, or behind array brackets. -/
inductive Place where
  | name
  | modifiers
  | brackets
  | suffix
  deriving DecidableEq, Repr

/-- Where the reader stands after a character, or `none` if the character may
not stand there. -/
def Place.step : Place → Char → Option Place
  | .name, '(' => some .modifiers
  | .name, '[' => some .brackets
  | .name, _ => some .name
  | .modifiers, ')' => some .name
  | .modifiers, c =>
    if isAsciiDigit c || c == ',' || c == ' ' then some .modifiers else none
  | .brackets, ']' => some .suffix
  | .brackets, c => if isAsciiDigit c then some .brackets else none
  | .suffix, '[' => some .brackets
  | .suffix, _ => none

/-- The characters of a type name outside of its modifiers and brackets, if
these are well formed. -/
def bareName? : Place → List Char → Option (List Char)
  | .name, [] | .suffix, [] => some []
  | _, [] => none
  | place, c :: rest =>
    match place.step c with
    | none => none
    | some next =>
      if place = .name ∧ next = .name then (bareName? next rest).map (c :: ·)
      else bareName? next rest

/-- The words of a text, between its blanks. -/
def words (text : List Char) : List String :=
  ((piecesWhere isBlank text).filter (!·.isEmpty)).map String.ofList

/-- A text with its ASCII letters in lower case. -/
def asciiLower (text : String) : String :=
  String.ofList (text.toList.map Char.toLower)

/-- The type names of several words. -/
def multiWordNames : List String :=
  [ "double precision", "character varying", "bit varying",
    "national character", "national character varying",
    "timestamp with time zone", "timestamp without time zone",
    "time with time zone", "time without time zone" ]

/-- Whether a name without modifiers and brackets is that of a type. -/
def isName (name : List Char) : Bool :=
  match words name with
  | [] => false
  | [word] => (qualifiedParts? word).isSome
  | words => multiWordNames.contains (asciiLower (joinWith " " words))

/-- Whether a text names a type. -/
def isValid (text : String) : Bool :=
  match bareName? .name (trim text).toList with
  | some name => isName name
  | none => false

/-- Refuse a text that does not name a type. -/
def check (text : String) : ExprResult Unit :=
  if isValid text then .ok () else .error (.invalidType text)

end SqlExpr.TypeName
