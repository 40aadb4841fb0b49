/-!
# Errors

Everything that can go wrong while an expression is built, configured or
rendered is one of six kinds of error.  Each carries the text of its cause;
`ExprError.message` is the full sentence shown to a caller.  The causes that
have a fixed wording are named here once, so that no other module spells them.
-/

namespace SqlExpr

/-- The kinds of failure, each with the text of its cause. -/
inductive ExprError where
  /-- An operator kind that is neither built in nor registered. -/
  | unknownOperator (kind : String)
  /-- A scalar that has no literal form. -/
  | unsupportedLiteral (cause : String)
  /-- A node that breaks one of the rules of its shape. -/
  | malformedNode (cause : String)
  /-- Something that cannot stand after `CROSS JOIN`. -/
  | invalidJoinTarget (cause : String)
  /-- A name, key or date that is refused. -/
  | validation (cause : String)
  /-- A configuration that cannot be built or installed. -/
  | config (cause : String)
  deriving DecidableEq, Repr

/-- A result, or the reason why there is none. -/
abbrev ExprResult (α : Type) := Except ExprError α

/-- Two computations in a row give a result exactly if the first one does and
the second one does with what the first one gave. -/
theorem bind_eq_ok_iff {ε α β : Type} {first : Except ε α}
    {next : α → Except ε β} {result : β} :
    first >>= next = .ok result ↔
      ∃ value, first = .ok value ∧ next value = .ok result := by
  cases first with
  | error fault =>
      constructor
      · intro success
        cases success
      · rintro ⟨_, ⟨⟩, _⟩
  | ok value =>
      constructor
      · intro success
        exact ⟨value, rfl, success⟩
      · rintro ⟨_, ⟨⟩, success⟩
        exact success

namespace ExprError

/-- The sentence shown for an error: its kind, then its cause. -/
def message : ExprError → String
  | unknownOperator kind => "Unknown operator: " ++ kind
  | unsupportedLiteral cause => "Unsupported literal kind: " ++ cause
  | malformedNode cause => "Malformed node: " ++ cause
  | invalidJoinTarget cause => "Invalid join target: " ++ cause
  | validation cause => "Validation error: " ++ cause
  | config cause => "Configuration error: " ++ cause

def isUnknownOperator : ExprError → Bool
  | unknownOperator _ => true
  | _ => false

def isMalformedNode : ExprError → Bool
  | malformedNode _ => true
  | _ => false

def isUnsupportedLiteral : ExprError → Bool
  | unsupportedLiteral _ => true
  | _ => false

/-! ## Literals -/

def nulInText : ExprError :=
  unsupportedLiteral "text containing NUL character"

def nonFiniteFloat (text : String) : ExprError :=
  unsupportedLiteral ("non-finite float " ++ text)

/-! ## Identifiers -/

def emptyIdentifier : ExprError := validation "identifier cannot be empty"

/-- The name is given in its escaped, double-quoted form. -/
def nulInIdentifier (escaped : String) : ExprError :=
  validation ("identifier " ++ escaped ++ " contains a NUL character")

/-! ## Nodes -/

def emptyFunctionName : ExprError :=
  malformedNode "function name cannot be empty"

def invalidFunctionName (name : String) : ExprError :=
  malformedNode ("invalid function name '" ++ name ++ "'")

def emptyCase : ExprError :=
  malformedNode "CASE requires at least one WHEN branch or an ELSE"

def invalidType (sqlType : String) : ExprError :=
  malformedNode ("invalid SQL type '" ++ sqlType ++ "'")

def unaryInBinaryNode (kind : String) : ExprError :=
  malformedNode
    ("operator '" ++ kind ++ "' is unary and cannot render a Binary node")

def infixInUnaryNode (kind : String) : ExprError :=
  malformedNode
    ("operator '" ++ kind ++ "' is infix and cannot render a Unary node")

def binaryArray : ExprError :=
  malformedNode "array literal takes a single operand"

/-! ## Configurations -/

def blankKind : ExprError := config "operator kind cannot be empty"

def coreKind (kind : String) : ExprError :=
  config ("'" ++ kind ++ "' is a core operator and cannot be registered")

def alreadyInstalled : ExprError :=
  config "global renderer config is already installed"

/-! ## Queries -/

def blankJoinName : ExprError :=
  invalidJoinTarget "cross join table name cannot be empty"

/-- The node is named by its kind. -/
def unjoinable (nodeKind : String) : ExprError :=
  invalidJoinTarget ("cannot cross join against a " ++ nodeKind ++
    " node; expected an aliased relation")

def noSelectKeys : ExprError :=
  validation "select_keys_from requires at least one key"

def invalidSelectKey (key : String) : ExprError :=
  validation ("invalid select key '" ++ key ++ "'")

def nonIntegerId (text : String) : ExprError :=
  validation ("unquoted array id '" ++ text ++ "' is not an integer")

def yearOutOfRange (year : String) : ExprError :=
  validation ("year " ++ year ++ " is out of range")

def durationOutOfRange (duration : String) : ExprError :=
  validation ("duration " ++ duration ++ " is out of range")

/-- The day's text comes with the reason why it is not a date. -/
def invalidDate (text reason : String) : ExprError :=
  validation ("invalid date '" ++ text ++ "': " ++ reason)

end ExprError

end SqlExpr
