import SqlExpr.Node.Basic
import SqlExpr.Render.Rendering

/-!
# Positions and parentheses

How a node is written depends on where it stands.  An operand of an operator
gets parentheses when its own operator would otherwise be read together with
its neighbours in another way.
-/

namespace SqlExpr

/-- Where a node stands. -/
inductive Position where
  /-- Where nothing binds to it. -/
  | free
  /-- As an operand of an operator; `operator?` is the operator if it is a core
  one. -/
  | operand (precedence : Precedence) (operator? : Option BinaryOperator)
      (onRight : Bool)
  /-- In a chain of operands that a connective joins. -/
  | chained (connective : BinaryOperator) (leads : Bool)
  /-- Behind `BETWEEN`, where an `AND` separates the bounds. -/
  | bounds
  deriving DecidableEq, Repr

/-- The precedence at which a node binds, with its core operator; `none` if it
can be told from its neighbours wherever it stands. -/
def Node.binding? : Node → Option (Precedence × Option BinaryOperator)
  | .binary kind _ _ =>
    match BinaryOperator.ofKind? kind with
    | some operator => some (operator.precedence, some operator)
    | none => some (.other, none)
  | .unary "NOT" _ => some (.not, none)
  | _ => none

/-- Whether an operand has to be put in parentheses. -/
def needsParentheses (precedence : Precedence)
    (operator? : Option BinaryOperator) (onRight : Bool) (node : Node) :
    Bool :=
  match node.binding? with
  | none => false
  | some (own, ownOperator?) =>
    if own = precedence then
      let merges :=
        ownOperator? = operator? ∧
          ownOperator?.any BinaryOperator.isAssociative
      !precedence.isChainable || (onRight && !merges)
    else
      own.rank < precedence.rank

/-- Whether a node in some position has to be put in parentheses. -/
def Position.parenthesizes : Position → Node → Bool
  | free, _ => false
  | operand precedence operator? onRight, node =>
    needsParentheses precedence operator? onRight node
  | chained connective leads, node =>
    needsParentheses connective.precedence (some connective) (!leads) node
  | bounds, node =>
    needsParentheses BinaryOperator.between.precedence (some .between) true
      node

/-- What is written between a node and the one before it in its chain. -/
def Position.separator : Position → String
  | chained connective false => " " ++ connective.symbol ++ " "
  | _ => ""

/-- A node where it stands: after its separator, and in parentheses if it has
to be. -/
def Position.place (position : Position) (node : Node) (body : Rendering) :
    Rendering :=
  .write position.separator ++
    if position.parenthesizes node then .write "(" ++ body ++ .write ")"
    else body

/-- Whether a node in some position continues the chain of a connective. -/
def Position.continues (connective : BinaryOperator) : Position → Bool
  | chained other _ => other = connective
  | _ => false

/-- Whether a node is a binary node of a core operator. -/
def Node.isBinaryOf (operator : BinaryOperator) : Node → Bool
  | .binary kind _ _ => BinaryOperator.ofKind? kind = some operator
  | _ => false

end SqlExpr
