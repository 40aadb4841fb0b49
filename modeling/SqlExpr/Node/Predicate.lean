import SqlExpr.Node.Basic

/-!
# Building predicates

The operations from which conditions, sums and orderings are put together.
-/

namespace SqlExpr.Node

/-- `x = y`, and `x IS NULL` when `y` is null. -/
def eq (x y : Node) : Node := binary "=" x y

/-- `x != y`, and `x IS NOT NULL` when `y` is null. -/
def notEq (x y : Node) : Node := binary "!=" x y

def lt (x y : Node) : Node := binary "<" x y

def ltEq (x y : Node) : Node := binary "<=" x y

def gt (x y : Node) : Node := binary ">" x y

def gtEq (x y : Node) : Node := binary ">=" x y

def like (x pattern : Node) : Node := binary "LIKE" x pattern

def iLike (x pattern : Node) : Node := binary "ILIKE" x pattern

/-- `x BETWEEN low AND high` -/
def between (x low high : Node) : Node :=
  binary "BETWEEN" x (binary "AND" low high)

/-- `x IN (v, …)`; nothing is in an empty list. -/
def inList (x : Node) (items : List Node) : Node :=
  if items.isEmpty then raw "1=0" else binary "IN" x (group (list items))

/-- `x NOT IN (v, …)`; everything is outside of an empty list. -/
def notInList (x : Node) (items : List Node) : Node :=
  if items.isEmpty then raw "1=1" else binary "NOT IN" x (group (list items))

def and (x y : Node) : Node := binary "AND" x y

/-- `(x OR y)`, in parentheses so that it can stand under `AND`. -/
def or (x y : Node) : Node := group (binary "OR" x y)

def not (x : Node) : Node := unary "NOT" x

/-- `x AS y` -/
def asName (x y : Node) : Node := binary "AS" x y

def plus (x y : Node) : Node := binary "+" x y

def minus (x y : Node) : Node := binary "-" x y

def asc (x : Node) : Node := unary "ASC" x

def desc (x : Node) : Node := unary "DESC" x

end SqlExpr.Node
