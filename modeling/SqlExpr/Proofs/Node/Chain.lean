import SqlExpr.Render.Position

/-!
# The operands of a chain

A chain is a tree of one connective.  Its operands are what is left when every
node of the connective is taken apart, and under `OR` also every disjunction
that stands in parentheses once.  `chain_induction` goes through a tree in this
way, so that a fact about chains has three cases only.
-/

namespace SqlExpr.Node

/-- A node without its parentheses, if they do not separate it from a chain of
the connective. -/
def opened (connective : BinaryOperator) : Node → Node
  | .group inner =>
    if connective = .or && inner.isBinaryOf .or then inner else .group inner
  | node => node

/-- The sides of a node of the connective. -/
def sides? (connective : BinaryOperator) : Node → Option (Node × Node)
  | .binary kind left right =>
    if BinaryOperator.ofKind? kind = some connective then some (left, right)
    else none
  | _ => none

/-- A node that a chain of the connective takes as a whole. -/
def IsOperand (connective : BinaryOperator) (node : Node) : Prop :=
  (node.opened connective).sides? connective = none

/-- The operands that a connective joins in a tree, from left to right. -/
def chainOperands (connective : BinaryOperator) : Node → List Node
  | .binary kind left right =>
    if BinaryOperator.ofKind? kind = some connective then
      left.chainOperands connective ++ right.chainOperands connective
    else [.binary kind left right]
  | .group inner =>
    if connective = .or && inner.isBinaryOf .or then
      inner.chainOperands connective
    else [.group inner]
  | node => [node]

variable {connective : BinaryOperator}

/-- A node is of the connective, or a disjunction in parentheses that a chain
of disjunctions opens, or an operand. -/
theorem chain_induction (connective : BinaryOperator) {motive : Node → Prop}
    (joined : ∀ kind left right,
      BinaryOperator.ofKind? kind = some connective →
        motive left → motive right → motive (.binary kind left right))
    (opens : ∀ inner, connective = .or → inner.isBinaryOf .or →
      motive inner → motive (.group inner))
    (operand : ∀ node, node.IsOperand connective → motive node)
    (node : Node) : motive node := by
  cases node with
  | binary kind left right =>
      by_cases named : BinaryOperator.ofKind? kind = some connective
      · apply joined kind left right named
        · exact chain_induction connective joined opens operand left
        · exact chain_induction connective joined opens operand right
      · apply operand
        simp [IsOperand, opened, sides?, named]
  | group inner =>
      by_cases merges : connective = .or && inner.isBinaryOf .or
      · obtain ⟨disjunctive, named⟩ := Bool.and_eq_true_iff.mp merges
        apply opens inner (of_decide_eq_true disjunctive) named
        exact chain_induction connective joined opens operand inner
      · apply operand
        rw [IsOperand, opened, if_neg merges]
        rfl
  | _ => exact operand _ rfl

theorem IsOperand.named_ne {kind : String} {left right : Node}
    (operand : (binary kind left right).IsOperand connective) :
    BinaryOperator.ofKind? kind ≠ some connective := by
  intro named
  simp [IsOperand, opened, sides?, named] at operand

theorem IsOperand.not_merges {inner : Node}
    (operand : (group inner).IsOperand connective) :
    ¬ (connective = .or && inner.isBinaryOf .or) := by
  intro merges
  rw [IsOperand, opened, if_pos merges] at operand
  obtain ⟨disjunctive, named⟩ := Bool.and_eq_true_iff.mp merges
  cases of_decide_eq_true disjunctive
  cases inner with
  | binary kind left right =>
      have core : BinaryOperator.ofKind? kind = some .or :=
        of_decide_eq_true named
      simp [sides?, core] at operand
  | _ => cases named

variable {node : Node}

theorem IsOperand.opened_eq (operand : node.IsOperand connective) :
    node.opened connective = node := by
  cases node with
  | group inner => rw [opened, if_neg operand.not_merges]
  | _ => rfl

theorem IsOperand.chainOperands_eq (operand : node.IsOperand connective) :
    node.chainOperands connective = [node] := by
  cases node with
  | binary kind left right => rw [chainOperands, if_neg operand.named_ne]
  | group inner => rw [chainOperands, if_neg operand.not_merges]
  | _ => rfl

theorem chainOperands_binary {kind : String}
    (named : BinaryOperator.ofKind? kind = some connective)
    (left right : Node) :
    (binary kind left right).chainOperands connective =
      left.chainOperands connective ++ right.chainOperands connective := by
  rw [chainOperands, if_pos named]

theorem chainOperands_group {inner : Node} (disjunction : inner.isBinaryOf .or) :
    (group inner).chainOperands .or = inner.chainOperands .or := by
  rw [chainOperands, if_pos (by simp [disjunction])]

theorem chainOperands_ne_nil (connective : BinaryOperator) (node : Node) :
    node.chainOperands connective ≠ [] := by
  induction node using chain_induction connective with
  | joined kind left right named leftSome rightSome =>
      rw [chainOperands_binary named]
      exact List.append_ne_nil_of_left_ne_nil leftSome _
  | opens inner disjunctive disjunction innerSome =>
      subst disjunctive
      rwa [chainOperands_group disjunction]
  | operand node operand =>
      rw [operand.chainOperands_eq]
      exact List.cons_ne_nil node []

/-- Nothing that a chain takes as a whole can be taken apart any further. -/
theorem isOperand_of_mem_chainOperands {operand : Node}
    (member : operand ∈ node.chainOperands connective) :
    operand.IsOperand connective := by
  induction node using chain_induction connective with
  | joined kind left right named ofLeft ofRight =>
      rw [chainOperands_binary named, List.mem_append] at member
      exact member.elim ofLeft ofRight
  | opens inner disjunctive disjunction ofInner =>
      subst disjunctive
      rw [chainOperands_group disjunction] at member
      exact ofInner member
  | operand node whole =>
      rw [whole.chainOperands_eq] at member
      cases List.mem_singleton.mp member
      exact whole

end SqlExpr.Node
