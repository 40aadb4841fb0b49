/-!
# Core operators

An operator is named by its kind, such as `=` or `NOT IN`.  The kinds of this
module have a meaning of their own; every other kind has to be registered.
-/

namespace SqlExpr

/-- How tightly an operator binds, loosest first. -/
inductive Precedence where
  /-- `AS` and `FROM`, which stand only at the top of an argument. -/
  | naming
  | or
  | and
  | not
  /-- `=`, `<`, `IS NULL` and the like. -/
  | comparison
  /-- `BETWEEN`, `IN`, `LIKE` and `ILIKE`. -/
  | range
  /-- Every registered operator. -/
  | other
  | additive
  | multiplicative
  deriving DecidableEq, Repr

namespace Precedence

/-- The place of a precedence in the order from loose to tight. -/
def rank : Precedence → Nat
  | naming => 0
  | or => 1
  | and => 2
  | not => 3
  | comparison => 4
  | range => 5
  | other => 6
  | additive => 7
  | multiplicative => 8

/-- Whether operators of this precedence can follow one another without
parentheses. -/
def isChainable : Precedence → Bool
  | comparison | range => false
  | _ => true

end Precedence

/-- The core operators between two operands. -/
inductive BinaryOperator where
  | eq
  | notEq
  | lt
  | ltEq
  | gt
  | gtEq
  | and
  | or
  | asName
  | between
  | inList
  | notInList
  | like
  | iLike
  | fromSource
  | plus
  | minus
  | multiply
  | divide
  deriving DecidableEq, Repr

namespace BinaryOperator

/-- The core operator of a kind, if there is one. -/
def ofKind? : String → Option BinaryOperator
  | "=" => some eq
  | "!=" | "<>" => some notEq
  | "<" => some lt
  | "<=" => some ltEq
  | ">" => some gt
  | ">=" => some gtEq
  | "AND" => some and
  | "OR" => some or
  | "AS" => some asName
  | "BETWEEN" => some between
  | "IN" => some inList
  | "NOT IN" => some notInList
  | "LIKE" => some like
  | "ILIKE" => some iLike
  | "FROM" => some fromSource
  | "+" => some plus
  | "-" => some minus
  | "*" => some multiply
  | "/" => some divide
  | _ => none

/-- The text between the operands. -/
def symbol : BinaryOperator → String
  | eq => "="
  | notEq => "!="
  | lt => "<"
  | ltEq => "<="
  | gt => ">"
  | gtEq => ">="
  | and => "AND"
  | or => "OR"
  | asName => "AS"
  | between => "BETWEEN"
  | inList => "IN"
  | notInList => "NOT IN"
  | like => "LIKE"
  | iLike => "ILIKE"
  | fromSource => "FROM"
  | plus => "+"
  | minus => "-"
  | multiply => "*"
  | divide => "/"

def precedence : BinaryOperator → Precedence
  | asName | fromSource => .naming
  | or => .or
  | and => .and
  | eq | notEq | lt | ltEq | gt | gtEq => .comparison
  | between | inList | notInList | like | iLike => .range
  | plus | minus => .additive
  | multiply | divide => .multiplicative

/-- Whether `a op (b op c)` means the same as `a op b op c`. -/
def isAssociative : BinaryOperator → Bool
  | and | or | plus | multiply => true
  | _ => false

/-- Whether an operator joins conditions into chains. -/
def isConnective : BinaryOperator → Bool
  | and | or => true
  | _ => false

/-- Whether a comparison with null is a test of its own. -/
def testsNull : BinaryOperator → Bool
  | eq | notEq => true
  | _ => false

/-- The text of the comparison with null. -/
def nullTest : BinaryOperator → String
  | notEq => " IS NOT NULL"
  | _ => " IS NULL"

end BinaryOperator

/-- The core operators on one operand. -/
inductive UnaryOperator where
  /-- `NOT (x)` -/
  | not
  /-- `x ASC` -/
  | asc
  /-- `x DESC` -/
  | desc
  /-- `INTERVAL x` -/
  | interval
  /-- `CROSS JOIN x` -/
  | crossJoin
  deriving DecidableEq, Repr

namespace UnaryOperator

/-- The core operator of a kind, if there is one. -/
def ofKind? : String → Option UnaryOperator
  | "NOT" => some not
  | "ASC" => some asc
  | "DESC" => some desc
  | "INTERVAL" => some interval
  | "CROSS JOIN" => some crossJoin
  | _ => none

/-- The texts before and after the operand. -/
def surroundings : UnaryOperator → String × String
  | not => ("NOT (", ")")
  | asc => ("", " ASC")
  | desc => ("", " DESC")
  | interval => ("INTERVAL ", "")
  | crossJoin => ("CROSS JOIN ", "")

end UnaryOperator

/-- Whether a kind is that of a core operator, on one operand or on two. -/
def isCoreKind (kind : String) : Bool :=
  (BinaryOperator.ofKind? kind).isSome || (UnaryOperator.ofKind? kind).isSome

end SqlExpr
