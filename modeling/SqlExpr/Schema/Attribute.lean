import SqlExpr.Schema.Error
import SqlExpr.Schema.Token

/-!
# Attributes

An attribute such as `#[table(id, column = "no")]` is a path, after which
entries may stand in parentheses.  Commas end the entries, of which the last one
needs none.  An entry is a key, possibly followed by an equals sign and a
string.
-/

namespace SqlExpr.Schema

/-- What stands after the path of an attribute. -/
inductive AttributeBody where
  | empty
  /-- An equals sign and a value. -/
  | value
  /-- Tokens in parentheses. -/
  | list (tokens : List Token)
  deriving DecidableEq, Repr

/-- An attribute. -/
structure Attribute where
  path : List Token
  body : AttributeBody
  deriving DecidableEq, Repr

/-- Whether a token ends the path of an attribute. -/
def endsPath (token : Token) : Bool := token.opens || token == .mark '='

/-- The attribute whose tokens stand in brackets. -/
def Attribute.ofTokens (tokens : List Token) : Attribute where
  path := tokens.takeWhile fun token => !endsPath token
  body :=
    match tokens.dropWhile fun token => !endsPath token with
    | [] => .empty
    | opening :: rest =>
      if opening.opens then .list (splitClosed 0 rest).1 else .value

/-- The attributes that begin a row of tokens, at most `fuel` of them, and the
tokens after them. -/
def readAttributeRow (fuel : Nat) (tokens : List Token) :
    List Attribute × List Token :=
  match fuel, tokens with
  | fuel + 1, .mark '#' :: .mark '[' :: rest =>
    let (inner, rest) := splitClosed 0 rest
    let (attributes, rest) := readAttributeRow fuel rest
    (.ofTokens inner :: attributes, rest)
  | _, tokens => ([], tokens)

/-- Whether an attribute concerns the table. -/
def Attribute.isOfTable (given : Attribute) : Bool :=
  given.path = [.name "table"]

/-- The entries in a row of tokens, each with the comma that ends it. -/
def splitEntries : List Token → List (List Token)
  | [] => []
  | token :: rest =>
    if token = .mark ',' then [token] :: splitEntries rest
    else
      match splitEntries rest with
      | [] => [[token]]
      | entry :: entries => (token :: entry) :: entries

/-- The entries of an attribute. -/
def AttributeBody.entries : AttributeBody → SchemaResult (List (List Token))
  | empty => .error .noSettings
  | value => .error .noParentheses
  | list tokens => .ok (splitEntries tokens)

/-! ## Keys -/

/-- The names of a key, between which stand two colons; `rooted` if two colons
also stand before them. -/
structure Key where
  rooted : Bool
  names : List String
  deriving DecidableEq, Repr

/-- Whether a key is just the given name. -/
def Key.isName (key : Key) (name : String) : Bool :=
  !key.rooted && key.names == [name]

/-- Read the names of a key after the first one. -/
def readNames : List Token → SchemaResult (List String × List Token)
  | .colons :: .name name :: rest => do
    let (names, rest) ← readNames rest
    return (name :: names, rest)
  | [.colons] => .error .unfinishedKey
  | .colons :: _ => .error .brokenKey
  | rest => .ok ([], rest)

/-- Read the names of a key. -/
def readKeyNames : List Token → SchemaResult (List String × List Token)
  | .name name :: rest => do
    let (names, rest) ← readNames rest
    return (name :: names, rest)
  | [] => .error .missingKey
  | .text _ :: _ | .literal :: _ | .number :: _ | .mark '-' :: .number :: _ =>
    .error .literalKey
  | _ => .error .markKey

/-- Read a key. -/
def readKey : List Token → SchemaResult (Key × List Token)
  | .colons :: rest => do
    let (names, rest) ← readKeyNames rest
    return (⟨true, names⟩, rest)
  | rest => do
    let (names, rest) ← readKeyNames rest
    return (⟨false, names⟩, rest)

/-! ## Values -/

/-- Read an equals sign and the string after it. -/
def readValue : List Token → SchemaResult (String × List Token)
  | .mark '=' :: .text value :: rest => .ok (value, rest)
  | [.mark '='] => .error .missingText
  | .mark '=' :: _ => .error .notText
  | _ => .error .missingEquals

/-- Refuse an entry that goes on. -/
def checkEnd : List Token → SchemaResult Unit
  | [] => .ok ()
  | .mark ',' :: _ => .ok ()
  | _ => .error .missingComma

/-! ## Reading -/

/-- Read the entries of all attributes that concern the table in order. -/
def readAttributes {σ : Type} (read : σ → List Token → SchemaResult σ)
    (state : σ) (attributes : List Attribute) : SchemaResult σ :=
  (attributes.filter Attribute.isOfTable).foldlM
    (fun state given => do (← given.body.entries).foldlM read state)
    state

end SqlExpr.Schema
