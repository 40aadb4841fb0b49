import SqlExpr.Schema.Field

/-!
# Declarations

A model is declared as an item such as

    #[table(name = "authors")]
    struct Writer { #[table(id)] no: i64, name: String }

Only a structure with named fields has fields here; of other items it is just
kept which kind they are of.
-/

namespace SqlExpr.Schema

/-- The kinds of items that can be declared. -/
inductive ItemKind where
  | namedFields
  | tuple
  | unit
  | enumeration
  | overlay
  deriving DecidableEq, Repr

/-- A declared item. -/
structure Declaration where
  kind : ItemKind
  name : String
  attributes : List Attribute
  fields : List Field
  deriving DecidableEq, Repr

/-- Skip the parameters of an item, and the conditions on them. -/
def skipParameters (tokens : List Token) : List Token :=
  let isNext (token : Token) : Bool :=
    token == .mark '\x7b' || token == .mark '(' || token == .mark ';' ||
      token == .name "where"
  match skipUntil isNext 0 0 tokens with
  | .name "where" :: rest =>
    let isBody (token : Token) : Bool :=
      token == .mark '\x7b' || token == .mark ';'
    skipUntil isBody 0 0 rest
  | rest => rest

/-- The kind and the fields of a structure, from what follows its name. -/
def readBody? (tokens : List Token) : Option (ItemKind × List Field) :=
  match skipParameters tokens with
  | .mark '\x7b' :: rest =>
    let inner := (splitClosed 0 rest).1
    some (.namedFields, readFields inner.length inner)
  | .mark '(' :: _ => some (.tuple, [])
  | .mark ';' :: _ => some (.unit, [])
  | _ => none

/-- The item that a text declares. -/
def Declaration.read? (text : String) : Option Declaration := do
  let tokens := tokens text
  let (attributes, rest) := readAttributeRow tokens.length tokens
  match skipVisibility rest with
  | .name "struct" :: .name name :: rest =>
    let (kind, fields) ← readBody? rest
    return ⟨kind, name, attributes, fields⟩
  | .name "enum" :: .name name :: _ =>
    return ⟨.enumeration, name, attributes, []⟩
  | .name "union" :: .name name :: _ => return ⟨.overlay, name, attributes, []⟩
  | _ => none

end SqlExpr.Schema
