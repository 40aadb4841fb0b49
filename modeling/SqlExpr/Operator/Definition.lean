import SqlExpr.Node.Basic
import SqlExpr.Text.Quoted
import SqlExpr.Value.Literal

/-!
# Operator definitions

A registered operator has a form, which says how it is written, and possibly
coercions, which reshape the operands it is built from.  Forms other than
infix, prefix and postfix are templates: lists of pieces into which the
operands are filled.
-/

namespace SqlExpr

open SqlExpr.Text

/-- What a caller passes as an operand: one node, or several. -/
inductive Operand where
  | single (node : Node)
  | many (items : List Node)
  deriving Inhabited, Repr

namespace Operand

/-- The operand as one node. -/
def toNode : Operand → Node
  | single node => node
  | many items => .list items

/-- The operand as several nodes; a list node counts as its items. -/
def items : Operand → List Node
  | single (.list items) => items
  | single node => [node]
  | many items => items

end Operand

/-- A way to turn what a caller passes into the node of the tree. -/
abbrev Coercion := Operand → ExprResult Node

/-- A piece of a template with the given places for operands. -/
inductive Piece (place : Type) where
  /-- A fixed text. -/
  | text (text : String)
  /-- A text that depends on how truth values are spelled. -/
  | styled (keyword numeric : String)
  /-- A literal. -/
  | value (value : Value)
  /-- An operand. -/
  | operand (place : place)
  /-- The end of the rendering, with an error. -/
  | fail (error : ExprError)
  deriving Repr

/-- The places for the operand of a unary operator. -/
inductive SinglePlace where
  /-- The operand as a node. -/
  | whole
  /-- The items of a list operand around a separator; any other operand is
  written as a node. -/
  | items (separator : String)
  deriving DecidableEq, Repr

/-- The places for the operands of a binary operator. -/
inductive PairPlace where
  | left
  | right
  deriving DecidableEq, Repr

/-- How an operator is written on one operand and between two. -/
structure Template where
  single : List (Piece SinglePlace)
  pair : List (Piece PairPlace)
  deriving Repr

/-- How a registered operator is written. -/
inductive OperatorForm where
  /-- `left symbol right` -/
  | infixed (symbol : String)
  /-- The symbol directly before the operand. -/
  | prefixed (symbol : String)
  /-- The symbol directly after the operand. -/
  | postfixed (symbol : String)
  | template (template : Template)
  deriving Repr

/-- A registered operator.  The left coercion of a unary operator applies to
its only operand. -/
structure OperatorDefinition where
  form : OperatorForm
  left? : Option Coercion := none
  right? : Option Coercion := none

namespace OperatorDefinition

/-- An operand after a coercion, if there is one. -/
def coerce (coercion? : Option Coercion) (operand : Operand) :
    ExprResult Node :=
  match coercion? with
  | some coercion => coercion operand
  | none => .ok operand.toNode

/-- A short description of a form. -/
def formText : OperatorForm → String
  | .infixed symbol => "Infix(" ++ escaped symbol ++ ")"
  | .prefixed symbol => "Prefix(" ++ escaped symbol ++ ")"
  | .postfixed symbol => "Postfix(" ++ escaped symbol ++ ")"
  | .template _ => "Custom(..)"

def flagText (flag : Bool) : String := if flag then "true" else "false"

/-- A short description of a definition. -/
def text (definition : OperatorDefinition) : String :=
  "OperatorDef \x7b form: " ++ formText definition.form ++
    ", left_coercion: " ++ flagText definition.left?.isSome ++
    ", right_coercion: " ++ flagText definition.right?.isSome ++ " \x7d"

end OperatorDefinition

end SqlExpr
