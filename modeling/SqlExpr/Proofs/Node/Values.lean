import SqlExpr.Render.Position

/-!
# Other values in a tree

`Node.mapValues` puts another value in the place of each value of a tree and
leaves all else as it is.  If null stays null and nothing else becomes null,
the nodes are put in parentheses and compared with null as they were before.
-/

namespace SqlExpr

namespace Node

mutual

/-- A tree with other values in its literals; their types stay. -/
def mapValues (change : Value → Value) : Node → Node
  | .column table? name => .column table? name
  | .literal value sqlType? => .literal (change value) sqlType?
  | .binary kind left right =>
    .binary kind (left.mapValues change) (right.mapValues change)
  | .unary kind operand => .unary kind (operand.mapValues change)
  | .call name arguments => .call name (mapValuesOfAll change arguments)
  | .caseWhen branches otherwise? =>
    .caseWhen (mapValuesOfBranches change branches)
      (mapValuesOfElse change otherwise?)
  | .group inner => .group (inner.mapValues change)
  | .list items => .list (mapValuesOfAll change items)
  | .aliased relation name => .aliased (relation.mapValues change) name
  | .raw sql => .raw sql

def mapValuesOfAll (change : Value → Value) : List Node → List Node
  | [] => []
  | node :: nodes => node.mapValues change :: mapValuesOfAll change nodes

def mapValuesOfBranches (change : Value → Value) :
    List (Node × Node) → List (Node × Node)
  | [] => []
  | (condition, result) :: branches =>
    (condition.mapValues change, result.mapValues change) ::
      mapValuesOfBranches change branches

def mapValuesOfElse (change : Value → Value) : Option Node → Option Node
  | none => none
  | some result => some (result.mapValues change)

end

mutual

theorem mapValues_id (node : Node) : node.mapValues id = node := by
  cases node with
  | binary kind left right =>
      rw [mapValues, mapValues_id left, mapValues_id right]
  | unary kind operand => rw [mapValues, mapValues_id operand]
  | call name arguments => rw [mapValues, mapValuesOfAll_id arguments]
  | caseWhen branches otherwise? =>
      rw [mapValues, mapValuesOfBranches_id branches,
        mapValuesOfElse_id otherwise?]
  | group inner => rw [mapValues, mapValues_id inner]
  | list items => rw [mapValues, mapValuesOfAll_id items]
  | aliased relation name => rw [mapValues, mapValues_id relation]
  | column | literal | raw => rfl

theorem mapValuesOfAll_id (nodes : List Node) :
    mapValuesOfAll id nodes = nodes := by
  cases nodes with
  | nil => rfl
  | cons node nodes =>
      rw [mapValuesOfAll, mapValues_id node, mapValuesOfAll_id nodes]

theorem mapValuesOfBranches_id (branches : List (Node × Node)) :
    mapValuesOfBranches id branches = branches := by
  cases branches with
  | nil => rfl
  | cons branch branches =>
      obtain ⟨condition, result⟩ := branch
      rw [mapValuesOfBranches, mapValues_id condition, mapValues_id result,
        mapValuesOfBranches_id branches]

theorem mapValuesOfElse_id (otherwise? : Option Node) :
    mapValuesOfElse id otherwise? = otherwise? := by
  cases otherwise? with
  | none => rfl
  | some result => rw [mapValuesOfElse, mapValues_id result]

end

variable {change : Value → Value}

@[simp] theorem binding?_mapValues (node : Node) :
    (node.mapValues change).binding? = node.binding? := by
  cases node with
  | unary kind operand =>
      by_cases negation : kind = "NOT"
      · subst kind
        rfl
      · simp [mapValues, binding?, negation]
  | _ => rfl

@[simp] theorem isBinaryOf_mapValues (operator : BinaryOperator)
    (node : Node) :
    (node.mapValues change).isBinaryOf operator = node.isBinaryOf operator := by
  cases node <;> rfl

@[simp] theorem checkCase_mapValues (branches : List (Node × Node))
    (otherwise? : Option Node) :
    checkCase (mapValuesOfBranches change branches)
        (mapValuesOfElse change otherwise?) =
      checkCase branches otherwise? := by
  cases branches <;> cases otherwise? <;> rfl

theorem isNull_mapValues
    (keepsNull : ∀ value, (change value).isNull = value.isNull)
    (node : Node) : (node.mapValues change).isNull = node.isNull := by
  cases node with
  | literal value sqlType? =>
      cases sqlType? with
      | none => exact keepsNull value
      | some sqlType => rfl
  | _ => rfl

end Node

@[simp] theorem Position.parenthesizes_mapValues (position : Position)
    (change : Value → Value) (node : Node) :
    position.parenthesizes (node.mapValues change) =
      position.parenthesizes node := by
  cases position <;>
    simp [Position.parenthesizes, needsParentheses]

end SqlExpr
