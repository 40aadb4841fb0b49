import SqlExpr.Node.TypeName
import SqlExpr.Operator.Core
import SqlExpr.Value.Basic

/-!
# Expressions

An expression is a tree of nodes.  A node is plain data: it can be built in any
shape, and the rules that a shape has to keep are checked when it is rendered.
The constructors that end in `?` below make those checks at once.
-/

namespace SqlExpr

open SqlExpr.Name

/-- An expression. -/
inductive Node where
  /-- A column, qualified by its table when that is known. -/
  | column (table? : Option String) (name : String)
  /-- A value, possibly cast to a type. -/
  | literal (value : Value) (sqlType? : Option String)
  /-- An operator between two operands. -/
  | binary (kind : String) (left right : Node)
  /-- An operator on one operand. -/
  | unary (kind : String) (operand : Node)
  /-- `name(a, b, …)` -/
  | call (name : String) (arguments : List Node)
  /-- `CASE WHEN c THEN r … ELSE e END` -/
  | caseWhen (branches : List (Node × Node)) (otherwise? : Option Node)
  /-- `(inner)` -/
  | group (inner : Node)
  /-- `a, b, …` -/
  | list (items : List Node)
  /-- A relation with a name of its own, as it stands after `FROM`. -/
  | aliased (relation : Node) (name : String)
  /-- SQL text that is written as it is. -/
  | raw (sql : String)
  deriving Inhabited, Repr

namespace Node

/-- The name of a node's kind. -/
def kindName : Node → String
  | column .. => "Identifier"
  | literal .. => "Literal"
  | binary .. => "Binary"
  | unary .. => "Unary"
  | call .. => "FunctionCall"
  | caseWhen .. => "Case"
  | group _ => "Grouping"
  | list _ => "List"
  | aliased .. => "TableAlias"
  | raw _ => "Raw"

/-- A value without a cast. -/
def ofValue (value : Value) : Node := literal value none

def null : Node := ofValue .null

def int (value : Int) : Node := ofValue (.int value)

def text (value : String) : Node := ofValue (.text value)

/-- Whether a node is the null literal without a cast. -/
def isNull : Node → Bool
  | literal value none => value.isNull
  | _ => false

/-- Refuse a function name that does not match `[A-Za-z_][A-Za-z0-9_.]*`. -/
def checkFunctionName (name : String) : ExprResult Unit :=
  if name.isEmpty then .error .emptyFunctionName
  else if isWord ['.'] name then .ok ()
  else .error (.invalidFunctionName name)

/-- Refuse a `CASE` with nothing in it. -/
def checkCase (branches : List (Node × Node)) (otherwise? : Option Node) :
    ExprResult Unit :=
  if branches.isEmpty && otherwise?.isNone then .error .emptyCase else .ok ()

/-- A literal with a cast to a type. -/
def typed? (value : Value) (sqlType : String) : ExprResult Node := do
  TypeName.check sqlType
  return literal value (some sqlType)

/-- A call of a function with a valid name. -/
def call? (name : String) (arguments : List Node) : ExprResult Node := do
  checkFunctionName name
  return call name arguments

/-- A `CASE` with at least one branch or an `ELSE`. -/
def caseWhen? (branches : List (Node × Node)) (otherwise? : Option Node) :
    ExprResult Node := do
  checkCase branches otherwise?
  return caseWhen branches otherwise?

end Node

end SqlExpr
