import SqlExpr.Node.Basic

/-!
# Outlines

The shape of an expression as a JSON document, for tools that show or compare
expressions.  Each node becomes an object with one member, named by the node's
kind; a literal is shown by the kind of its value only.
-/

namespace SqlExpr.Node

/-- A text, or null if there is none. -/
def textOrNull : Option String → Json
  | some text => .string text
  | none => .null

mutual

/-- The shape of a node. -/
def outline : Node → Json
  | node@(.column table? name) =>
    .object [(node.kindName, .array [textOrNull table?, .string name])]
  | node@(.literal value sqlType?) =>
    .object [(node.kindName, .array
      [.string value.kindName, textOrNull sqlType?, .bool node.isNull])]
  | .binary kind left right =>
    .object [("Binary", .array [.string kind, left.outline, right.outline])]
  | .unary kind operand =>
    .object [("Unary", .array [.string kind, operand.outline])]
  | .call name arguments =>
    .object [("FunctionCall", .array
      [.string name, .array (outlines arguments)])]
  | .caseWhen branches otherwise? =>
    .object [("Case", .array
      [.array (branchOutlines branches), elseOutline otherwise?])]
  | .group inner => .object [("Grouping", inner.outline)]
  | .list items => .object [("List", .array (outlines items))]
  | .aliased relation name =>
    .object [("TableAlias", .array [relation.outline, .string name])]
  | .raw sql => .object [("Raw", .string sql)]

def outlines : List Node → List Json
  | [] => []
  | node :: nodes => node.outline :: outlines nodes

def branchOutlines : List (Node × Node) → List Json
  | [] => []
  | (condition, result) :: branches =>
    .array [condition.outline, result.outline] :: branchOutlines branches

def elseOutline : Option Node → Json
  | none => .null
  | some result => result.outline

end

end SqlExpr.Node
