import SqlExpr.Calendar.Timestamp
import SqlExpr.Json.Basic
import SqlExpr.Number.Decimal
import SqlExpr.Number.Digits

/-!
# Scalar values

The values that can stand in an expression as a literal.  Among them are
universally unique identifiers, written as 32 hexadecimal digits in groups.
-/

namespace SqlExpr

open SqlExpr.Calendar SqlExpr.Number

/-- A 128-bit number. -/
structure Uuid where
  value : BitVec 128
  deriving DecidableEq, Repr

namespace Uuid

/-- Read 32 hexadecimal digits; hyphens among them are skipped. -/
def read? (text : String) : Option Uuid := do
  let digits ← (text.toList.filter (· != '-')).mapM Number.hexValue?
  let value := digits.foldl (fun value digit => 16 * value + digit) 0
  if digits.length = 32 then some ⟨BitVec.ofNat 128 value⟩ else none

/-- Cut a text into groups of the given sizes, joined by hyphens. -/
def hyphenate : List Nat → List Char → List Char
  | [], digits => digits
  | size :: sizes, digits =>
    digits.take size ++ '-' :: hyphenate sizes (digits.drop size)

/-- The 32 lower case digits in groups of 8, 4, 4, 4 and 12. -/
def text (uuid : Uuid) : String :=
  let digits := Nat.toDigits 16 uuid.value.toNat
  let padded := List.replicate (32 - digits.length) '0' ++ digits
  String.ofList (hyphenate [8, 4, 4, 4] padded)

end Uuid

/-- A scalar value. -/
inductive Value where
  | null
  | bool (value : Bool)
  | int (value : Int)
  | float (value : Binary64)
  | text (value : String)
  | date (value : Date)
  | timestamp (value : Timestamp)
  /-- An instant, given by its date and time in UTC. -/
  | timestampTz (value : Timestamp)
  | json (value : Json)
  | uuid (value : Uuid)
  | decimal (value : Decimal)
  deriving Inhabited, Repr

namespace Value

/-- The name of a value's kind. -/
def kindName : Value → String
  | null => "null"
  | bool _ => "bool"
  | int _ => "int"
  | float _ => "float"
  | text _ => "text"
  | date _ => "date"
  | timestamp _ => "timestamp"
  | timestampTz _ => "timestamptz"
  | json _ => "json"
  | uuid _ => "uuid"
  | decimal _ => "decimal"

def isNull : Value → Bool
  | null => true
  | _ => false

end Value

end SqlExpr
