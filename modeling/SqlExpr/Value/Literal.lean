import SqlExpr.Json.Printer
import SqlExpr.Render.Rendering
import SqlExpr.Text.Quoted
import SqlExpr.Value.Basic

/-!
# Literals

How scalar values are spelled in SQL.  Numbers stand bare, texts, dates,
timestamps, documents and identifiers between single quotes.  A value is
written behind what a buffer holds, and one that has no literal is refused
before any of it is written.  This is the only place where a value becomes SQL
text.
-/

namespace SqlExpr

open SqlExpr.Number SqlExpr.Text

/-- How truth values are spelled. -/
inductive BooleanStyle where
  /-- `TRUE` and `FALSE` -/
  | keyword
  /-- `1` and `0` -/
  | numeric
  deriving DecidableEq, Inhabited, Repr

def BooleanStyle.spell : BooleanStyle → Bool → String
  | keyword, true => "TRUE"
  | keyword, false => "FALSE"
  | numeric, true => "1"
  | numeric, false => "0"

/-- One character of a text between single quotes, where a quote is written
twice. -/
def pushQuoted (buffer : String) (c : Char) : String :=
  if c = '\'' then (buffer.push '\'').push c else buffer.push c

/-- A text as a SQL string; a text with a NUL character has no such form. -/
def writeText (buffer text : String) : Rendering :=
  if hasNul text then ⟨buffer, some .nulInText⟩
  else
    .write ((text.toList.foldl pushQuoted (buffer.push '\'')).push '\'')

/-- A floating-point number in decimal; only finite ones have such a form. -/
def writeFloat (buffer : String) (value : Binary64) : Rendering :=
  match sqlLayout.text? value with
  | some text => .write (buffer ++ text)
  | none => ⟨buffer, some (.nonFiniteFloat value.nonFiniteName)⟩

namespace Value

/-- A value written behind what a buffer holds. -/
def writeTo (style : BooleanStyle) (buffer : String) : Value → Rendering
  | null => .write (buffer ++ "NULL")
  | bool value => .write (buffer ++ style.spell value)
  | int value => .write (buffer ++ integerText value)
  | float value => writeFloat buffer value
  | text value => writeText buffer value
  | date value => .write (buffer ++ quoted '\'' value.text)
  | timestamp value => .write (buffer ++ quoted '\'' value.text)
  | timestampTz value => .write (buffer ++ quoted '\'' value.text)
  | json value => writeText buffer value.text
  | uuid value => .write (buffer ++ quoted '\'' value.text)
  | decimal value => .write (buffer ++ value.text)

/-- A value as a SQL literal. -/
def literal (style : BooleanStyle) (value : Value) : ExprResult String :=
  (value.writeTo style "").result

end Value

end SqlExpr
