import SqlExpr.Proofs.Node.Subnodes
import SqlExpr.Proofs.Node.Values

/-!
# The texts of a tree

`Node.texts` are the contents of the text literals of a tree in the order in
which they stand, and `Node.eraseTexts` takes these contents away.  Two trees
with the same erasure differ in the contents of text literals only.
-/

namespace SqlExpr

/-- A value without the content of its text, if it is one. -/
def Value.eraseText : Value → Value
  | .text _ => .text ""
  | value => value

namespace Node

/-- The content of a node that is a text literal. -/
def ownTexts : Node → List String
  | .literal (.text content) _ => [content]
  | _ => []

/-- The contents of all text literals of a tree. -/
def texts (node : Node) : List String := node.subnodes.flatMap ownTexts

mutual

/-- A tree without the contents of its text literals. -/
def eraseTexts : Node → Node
  | .column table? name => .column table? name
  | .literal value sqlType? => .literal value.eraseText sqlType?
  | .binary kind left right => .binary kind left.eraseTexts right.eraseTexts
  | .unary kind operand => .unary kind operand.eraseTexts
  | .call name arguments => .call name (eraseAll arguments)
  | .caseWhen branches otherwise? =>
    .caseWhen (eraseBranches branches) (eraseElse otherwise?)
  | .group inner => .group inner.eraseTexts
  | .list items => .list (eraseAll items)
  | .aliased relation name => .aliased relation.eraseTexts name
  | .raw sql => .raw sql

def eraseAll : List Node → List Node
  | [] => []
  | node :: nodes => node.eraseTexts :: eraseAll nodes

def eraseBranches : List (Node × Node) → List (Node × Node)
  | [] => []
  | (condition, result) :: branches =>
    (condition.eraseTexts, result.eraseTexts) :: eraseBranches branches

def eraseElse : Option Node → Option Node
  | none => none
  | some result => some result.eraseTexts

end

mutual

theorem eraseTexts_eq_mapValues (node : Node) :
    node.eraseTexts = node.mapValues Value.eraseText := by
  cases node with
  | binary kind left right =>
      rw [eraseTexts, mapValues, eraseTexts_eq_mapValues left,
        eraseTexts_eq_mapValues right]
  | unary kind operand =>
      rw [eraseTexts, mapValues, eraseTexts_eq_mapValues operand]
  | call name arguments => rw [eraseTexts, mapValues, eraseAll_eq arguments]
  | caseWhen branches otherwise? =>
      rw [eraseTexts, mapValues, eraseBranches_eq branches,
        eraseElse_eq otherwise?]
  | group inner => rw [eraseTexts, mapValues, eraseTexts_eq_mapValues inner]
  | list items => rw [eraseTexts, mapValues, eraseAll_eq items]
  | aliased relation name =>
      rw [eraseTexts, mapValues, eraseTexts_eq_mapValues relation]
  | column | literal | raw => rfl

theorem eraseAll_eq (nodes : List Node) :
    eraseAll nodes = mapValuesOfAll Value.eraseText nodes := by
  cases nodes with
  | nil => rfl
  | cons node nodes =>
      rw [eraseAll, mapValuesOfAll, eraseTexts_eq_mapValues node,
        eraseAll_eq nodes]

theorem eraseBranches_eq (branches : List (Node × Node)) :
    eraseBranches branches = mapValuesOfBranches Value.eraseText branches := by
  cases branches with
  | nil => rfl
  | cons branch branches =>
      obtain ⟨condition, result⟩ := branch
      rw [eraseBranches, mapValuesOfBranches,
        eraseTexts_eq_mapValues condition, eraseTexts_eq_mapValues result,
        eraseBranches_eq branches]

theorem eraseElse_eq (otherwise? : Option Node) :
    eraseElse otherwise? = mapValuesOfElse Value.eraseText otherwise? := by
  cases otherwise? with
  | none => rfl
  | some result =>
      rw [eraseElse, mapValuesOfElse, eraseTexts_eq_mapValues result]

end

end Node

end SqlExpr
