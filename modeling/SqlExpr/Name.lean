import SqlExpr.Error
import SqlExpr.Text.Pieces
import SqlExpr.Text.Quoted

/-!
# Names

A plain name can stand in SQL without quotes, and a qualified name is made of
plain names joined by dots.  A quoting turns the name of a column or a table
into a SQL identifier: a qualified table name is quoted part by part and any
other name as a whole.
-/

namespace SqlExpr

open SqlExpr.Text

namespace Name

def isAsciiLetter (c : Char) : Bool :=
  ('a' ≤ c && c ≤ 'z') || ('A' ≤ c && c ≤ 'Z')

def isAsciiDigit (c : Char) : Bool := '0' ≤ c && c ≤ '9'

/-- A letter or an underscore. -/
def beginsName (c : Char) : Bool := c == '_' || isAsciiLetter c

/-- Whether a text is not empty, begins with a letter or an underscore and goes
on with letters, digits, underscores and the characters in `further`. -/
def isWord (further : List Char) (text : String) : Bool :=
  match text.toList with
  | [] => false
  | c :: rest =>
    beginsName c &&
      rest.all fun c => beginsName c || isAsciiDigit c || further.contains c

/-- Whether a text matches `[A-Za-z_][A-Za-z0-9_$]*`. -/
def isPlain (text : String) : Bool := isWord ['$'] text

/-- The parts of a name between its dots, if all of them are plain. -/
def qualifiedParts? (name : String) : Option (List String) :=
  let parts := pieces '.' name
  if parts.all isPlain then some parts else none

end Name

/-! ## Quoting -/

open SqlExpr.Name

/-- A way to write names as SQL identifiers. -/
structure Quoting where
  /-- Write one name as one identifier, or refuse it. -/
  identifier : String → ExprResult String

/-- Write a table name, part by part when it is qualified. -/
def Quoting.tableName (quoting : Quoting) (name : String) :
    ExprResult String := do
  match qualifiedParts? name with
  | none => quoting.identifier name
  | some parts => return joinWith "." (← parts.mapM quoting.identifier)

/-- A name between double quotes.  It may be neither empty nor hold a NUL
character. -/
def quoteIdentifier (name : String) : ExprResult String :=
  if name.isEmpty then .error .emptyIdentifier
  else if hasNul name then .error (.nulInIdentifier (escaped name))
  else .ok (quoted '"' name)

/-- The dialects of SQL that can be written. -/
inductive Dialect where
  | postgres
  deriving DecidableEq, Inhabited, Repr

/-- The dialect's own way to write names. -/
def Dialect.quoting : Dialect → Quoting
  | postgres => ⟨quoteIdentifier⟩

end SqlExpr
