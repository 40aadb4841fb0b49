import SqlExpr.Schema.Attribute

/-!
# Fields

The fields of an item are written one after the other, each with its attributes
before it and a type after it, such as `#[table(id)] no: i64`.  A comma ends a
field.
-/

namespace SqlExpr.Schema

/-- A field of a declared item. -/
structure Field where
  name : String
  attributes : List Attribute
  deriving DecidableEq, Repr

/-- Skip who may see an item or a field. -/
def skipVisibility : List Token → List Token
  | .name "pub" :: .mark '(' :: rest => (splitClosed 0 rest).2
  | .name "pub" :: rest => rest
  | rest => rest

/-- Skip tokens up to one that `ends` them outside all brackets.  Within
brackets of other kinds `<` and `>` are no brackets, and that of an arrow is
none anywhere. -/
def skipUntil (ends : Token → Bool) (brackets angles : Nat) :
    List Token → List Token
  | [] => []
  | .mark '-' :: .mark '>' :: rest => skipUntil ends brackets angles rest
  | token :: rest =>
    if brackets = 0 ∧ angles = 0 ∧ ends token then token :: rest
    else if token.opens then skipUntil ends (brackets + 1) angles rest
    else if token.closes then skipUntil ends (brackets - 1) angles rest
    else if brackets = 0 ∧ token = .mark '<' then
      skipUntil ends brackets (angles + 1) rest
    else if brackets = 0 ∧ token = .mark '>' then
      skipUntil ends brackets (angles - 1) rest
    else skipUntil ends brackets angles rest

/-- The fields that a row of tokens lists, at most `fuel` of them. -/
def readFields (fuel : Nat) (tokens : List Token) : List Field :=
  match fuel with
  | 0 => []
  | fuel + 1 =>
    let (attributes, rest) := readAttributeRow tokens.length tokens
    match skipVisibility rest with
    | .name name :: .mark ':' :: rest =>
      let rest := (skipUntil (· == .mark ',') 0 0 rest).drop 1
      ⟨name, attributes⟩ :: readFields fuel rest
    | _ => []

end SqlExpr.Schema
