import SqlExpr.Keyed
import SqlExpr.Number.Binary64

/-!
# JSON documents

A JSON document.  Whole numbers and floating-point numbers are told apart, and
the members of an object are sorted by key.
-/

namespace SqlExpr

open SqlExpr.Number

/-- A JSON document. -/
inductive Json where
  | null
  | bool (value : Bool)
  | integer (value : Int)
  | float (value : Binary64)
  | string (text : String)
  | array (items : List Json)
  | object (members : List (String × Json))
  deriving Inhabited, Repr

namespace Json

/-- The object with the given members; of members with one key the last one
stays. -/
def ofMembers (members : List (String × Json)) : Json :=
  object (Keyed.ofList members)

/-- The member of an object with a given key. -/
def member? : Json → String → Option Json
  | object members, key => members.lookup key
  | _, _ => none

/-- The text of a string. -/
def string? : Json → Option String
  | string text => some text
  | _ => none

/-- The value of a whole number. -/
def integer? : Json → Option Int
  | integer value => some value
  | _ => none

/-- A truth value. -/
def bool? : Json → Option Bool
  | bool value => some value
  | _ => none

/-- The items of an array. -/
def items? : Json → Option (List Json)
  | array items => some items
  | _ => none

/-- The key and the value of an object with one member. -/
def single? : Json → Option (String × Json)
  | object [entry] => some entry
  | _ => none

end Json

end SqlExpr
