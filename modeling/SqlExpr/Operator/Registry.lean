import SqlExpr.Keyed
import SqlExpr.Operator.Definition
import SqlExpr.Text.Pieces

/-!
# Operator registries

A registry holds the definitions of operator kinds that are not core kinds.  A
kind has one definition, the last one given for it.
-/

namespace SqlExpr

open SqlExpr.Text

/-- The definitions of registered operators, sorted by kind. -/
structure Registry where
  entries : Keyed OperatorDefinition := []

namespace Registry

def empty : Registry := {}

instance : Inhabited Registry := ⟨empty⟩

/-- Define a kind without any check. -/
def define (registry : Registry) (kind : String)
    (definition : OperatorDefinition) : Registry :=
  ⟨registry.entries.insert kind definition⟩

/-- Refuse a kind that is blank or belongs to a core operator. -/
def checkKind (kind : String) : ExprResult Unit :=
  if isBlankText kind then .error .blankKind
  else if isCoreKind kind then .error (.coreKind kind)
  else .ok ()

/-- Define a kind, unless it may not be registered. -/
def register (registry : Registry) (kind : String)
    (definition : OperatorDefinition) : ExprResult Registry := do
  checkKind kind
  return registry.define kind definition

def get? (registry : Registry) (kind : String) : Option OperatorDefinition :=
  registry.entries.get? kind

def contains (registry : Registry) (kind : String) : Bool :=
  (registry.get? kind).isSome

/-- The registered kinds in ascending order. -/
def kinds (registry : Registry) : List String := registry.entries.keys

def size (registry : Registry) : Nat := registry.entries.length

/-- The definition of a kind, or the error that there is none. -/
def find (registry : Registry) (kind : String) :
    ExprResult OperatorDefinition :=
  match registry.get? kind with
  | some definition => .ok definition
  | none => .error (.unknownOperator kind)

/-- Build a binary node with the coercions of its kind; core kinds have none. -/
def binary (registry : Registry) (kind : String) (left right : Operand) :
    ExprResult Node := do
  if (BinaryOperator.ofKind? kind).isSome then
    return .binary kind left.toNode right.toNode
  else
    let definition ← registry.find kind
    let left ← OperatorDefinition.coerce definition.left? left
    let right ← OperatorDefinition.coerce definition.right? right
    return .binary kind left right

/-- Build a unary node with the coercion of its kind; core kinds have none. -/
def unary (registry : Registry) (kind : String) (operand : Operand) :
    ExprResult Node := do
  if (UnaryOperator.ofKind? kind).isSome then
    return .unary kind operand.toNode
  else
    let definition ← registry.find kind
    return .unary kind (← OperatorDefinition.coerce definition.left? operand)

end Registry

end SqlExpr
