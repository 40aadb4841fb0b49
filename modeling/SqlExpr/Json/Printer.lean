import SqlExpr.Json.Basic
import SqlExpr.Number.Layout
import SqlExpr.Text.Pieces

/-!
# JSON text

JSON documents are written without blanks.  In strings the quotation mark, the
backslash and the controls are escaped, and every other character stands for
itself.
-/

namespace SqlExpr.Json

open SqlExpr.Number SqlExpr.Text

/-- One character of a JSON string. -/
def escapeChar (c : Char) : String :=
  match c with
  | '"' => "\\\""
  | '\\' => "\\\\"
  | '\x08' => "\\b"
  | '\t' => "\\t"
  | '\n' => "\\n"
  | '\x0c' => "\\f"
  | '\r' => "\\r"
  | c =>
    if c.toNat < 16 then "\\u000" ++ String.ofList (Nat.toDigits 16 c.toNat)
    else if c.toNat < 32 then "\\u00" ++ String.ofList (Nat.toDigits 16 c.toNat)
    else c.toString

/-- A JSON string. -/
def stringText (text : String) : String :=
  "\"" ++ String.join (text.toList.map escapeChar) ++ "\""

mutual

/-- The text of a document.  A float that is not finite has no JSON form and
becomes null. -/
def text : Json → String
  | null => "null"
  | bool true => "true"
  | bool false => "false"
  | integer value => integerText value
  | float value => (jsonLayout.text? value).getD "null"
  | string value => stringText value
  | array items => "[" ++ joinWith "," (itemTexts items) ++ "]"
  | object members => "\x7b" ++ joinWith "," (memberTexts members) ++ "\x7d"

def itemTexts : List Json → List String
  | [] => []
  | item :: items => item.text :: itemTexts items

def memberTexts : List (String × Json) → List String
  | [] => []
  | (key, value) :: members =>
    (stringText key ++ ":" ++ value.text) :: memberTexts members

end

end SqlExpr.Json
