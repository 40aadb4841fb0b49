/-!
# TOML documents

The values of a TOML text as they are written, and the document that they make
up.  What no configuration looks into is not kept: of a number or a date only
whether there is a value that it stands for.
-/

namespace SqlExpr.Toml

/-- A value as it is written. -/
inductive Literal where
  | string (text : String)
  /-- A truth value, a number, or a date or time; `inRange` unless it is a
  number too large for its format. -/
  | scalar (inRange : Bool)
  | array (items : List Literal)
  /-- The entries of an inline table; a dotted key is a path. -/
  | table (entries : List (List String × Literal))
  deriving Inhabited, Repr

/-- A line of a document. -/
inductive Statement where
  /-- `a.b = value` -/
  | entry (path : List String) (value : Literal)
  /-- `[a.b]` -/
  | table (path : List String)
  /-- `[[a.b]]` -/
  | element (path : List String)
  deriving Inhabited, Repr

/-- How a table came to be, on which it depends who may add to it. -/
inductive Origin where
  /-- Written in braces. -/
  | inline
  /-- Opened by a header of its own. -/
  | header
  /-- Passed through by the header of a table within it. -/
  | implied
  /-- Passed through by a dotted key. -/
  | dotted
  deriving DecidableEq, Repr

/-- A value of a document. -/
inductive Item where
  | string (text : String)
  | scalar (inRange : Bool)
  | array (items : List Item)
  | table (origin : Origin) (members : List (String × Item))
  /-- Tables opened one after the other by headers in double brackets. -/
  | tables (elements : List (List (String × Item)))
  deriving Inhabited, Repr

/-- The members of a table, each key once. -/
abbrev Members := List (String × Item)

mutual

/-- Whether every number in an item has a value in its format. -/
def Item.inRange : Item → Bool
  | .string _ => true
  | .scalar inRange => inRange
  | .array items => itemsInRange items
  | .table _ members => membersInRange members
  | .tables elements => elementsInRange elements

def itemsInRange : List Item → Bool
  | [] => true
  | item :: items => item.inRange && itemsInRange items

def membersInRange : List (String × Item) → Bool
  | [] => true
  | (_, item) :: members => item.inRange && membersInRange members

def elementsInRange : List (List (String × Item)) → Bool
  | [] => true
  | members :: elements => membersInRange members && elementsInRange elements

end

end SqlExpr.Toml
