import SqlExpr.Proofs.Output.Rendering
import SqlExpr.Render.Basic

/-!
# Nodes where they stand

A node is written where it stands as it is written on its own, behind the text
that joins it to what is before it, and in parentheses if its operator needs
them.  Two nodes are taken apart instead: a conjunction behind `BETWEEN`, whose
operands are the bounds of the range, and a disjunction in parentheses that
goes on with a chain of disjunctions.
-/

namespace SqlExpr

/-! ## Operands of connectives -/

section Connective

variable {operator : BinaryOperator} {own? : Option BinaryOperator}
  {node : Node}

/-- A node that binds as a connective does has it as its operator. -/
theorem Node.own_of_connective (connective : operator.isConnective)
    (binding : node.binding? = some (operator.precedence, own?)) :
    own? = some operator := by
  unfold Node.binding? at binding
  split at binding
  · split at binding
    next own named =>
      simp only [Option.some.injEq, Prod.mk.injEq] at binding
      obtain ⟨same, rfl⟩ := binding
      cases operator <;> first | (cases connective; done) |
        (cases own <;> first | rfl | cases same)
    next =>
      have same : Precedence.other = operator.precedence :=
        congrArg Prod.fst (Option.some.inj binding)
      cases operator <;> cases same
  · have same : Precedence.not = operator.precedence :=
      congrArg Prod.fst (Option.some.inj binding)
    cases operator <;> cases same
  · cases binding

/-- A node whose operator binds more loosely than the connective does. -/
def Node.bindsLooser (connective : BinaryOperator) (node : Node) : Bool :=
  node.binding?.any fun own => own.1.rank < connective.precedence.rank

/-- In a chain, a node gets parentheses exactly if it binds more loosely. -/
theorem needsParentheses_eq_bindsLooser (connective : operator.isConnective)
    (onRight : Bool) (node : Node) :
    needsParentheses operator.precedence (some operator) onRight node =
      node.bindsLooser operator := by
  unfold needsParentheses Node.bindsLooser
  cases binding : node.binding? with
  | none => rfl
  | some own =>
      obtain ⟨precedence, own?⟩ := own
      by_cases same : precedence = operator.precedence
      · subst same
        cases Node.own_of_connective connective binding
        have associative : operator.isAssociative := by
          cases operator <;> first | rfl | cases connective
        have chainable : operator.precedence.isChainable := by
          cases operator <;> first | rfl | cases connective
        simp [associative, chainable]
      · simp [same]

/-- In a chain it makes no difference whether an operand is the first one. -/
theorem needsParentheses_connective (connective : operator.isConnective) :
    needsParentheses operator.precedence (some operator) true node =
      needsParentheses operator.precedence (some operator) false node := by
  rw [needsParentheses_eq_bindsLooser connective,
    needsParentheses_eq_bindsLooser connective]

theorem Position.place_chained (connective : operator.isConnective)
    (body : Rendering) :
    (chained operator false).place node body =
      .write (" " ++ operator.symbol ++ " ") ++
        (chained operator true).place node body := by
  have same : (chained operator false).parenthesizes node =
      (chained operator true).parenthesizes node :=
    needsParentheses_connective connective
  have none : Rendering.write (chained operator true).separator = .empty := rfl
  unfold Position.place
  rw [same, none, Rendering.empty_append]
  rfl

/-- On its own a node continues no chain, and so none but that of a
connective. -/
theorem Position.connective_of_free :
    ∀ operator, free.continues operator → operator.isConnective := by
  intro operator continues
  cases continues

theorem Position.connective_of_operand {precedence : Precedence}
    {operator? : Option BinaryOperator} {onRight : Bool} :
    ∀ operator, (operand precedence operator? onRight).continues operator →
      operator.isConnective := by
  intro operator continues
  cases continues

theorem Position.eq_chained_of_continues {position : Position}
    (chain : position.continues operator) :
    ∃ leads, position = .chained operator leads := by
  cases position with
  | chained other leads =>
      have same : other = operator := by simpa [continues] using chain
      exact ⟨leads, same ▸ rfl⟩
  | _ => cases chain

/-- A chain goes on in an operand of its own without parentheses. -/
theorem Position.place_continued {kind : String} {left right : Node}
    (core : BinaryOperator.ofKind? kind = some operator)
    (connective : operator.isConnective) (leads : Bool) (body : Rendering) :
    (chained operator leads).place (.binary kind left right) body =
      .write (chained operator leads).separator ++ body := by
  have chainable : operator.precedence.isChainable := by
    cases operator <;> first | rfl | cases connective
  have first : needsParentheses operator.precedence (some operator) false
      (.binary kind left right) = false := by
    simp [needsParentheses, Node.binding?, core, chainable]
  have bare : (chained operator leads).parenthesizes
      (.binary kind left right) = false := by
    cases leads with
    | true => exact first
    | false => exact (needsParentheses_connective connective).trans first
  unfold Position.place
  rw [bare]
  rfl

end Connective

/-- Whether a node is taken apart where it stands. -/
def Position.takesApart : Position → Node → Bool
  | bounds, node => node.isBinaryOf .and
  | chained .or _, .group inner => inner.isBinaryOf .or
  | _, _ => false

namespace Config

variable {config : Config} {operator : BinaryOperator} {kind : String}

/-- What stands behind the left operand of an operator that is not a
connective. -/
def renderRight (config : Config) (operator : BinaryOperator) (right : Node) :
    Rendering :=
  if operator.testsNull && right.isNull then
    .write operator.nullTest
  else if operator = .between then
    .write " BETWEEN " ++ config.renderAt .bounds right
  else
    .write (" " ++ operator.symbol ++ " ") ++
      config.renderAt
        (.operand operator.precedence (some operator) true) right

theorem renderAt_core (core : BinaryOperator.ofKind? kind = some operator)
    {position : Position} (apart : position = .bounds → operator ≠ .and)
    (left right : Node) :
    config.renderAt position (.binary kind left right) =
      if operator.isConnective then
        if position.continues operator then
          config.renderAt position left ++
            config.renderAt (.chained operator false) right
        else
          position.place (.binary kind left right)
            (config.renderAt (.chained operator true) left ++
              config.renderAt (.chained operator false) right)
      else
        position.place (.binary kind left right)
          (config.renderAt
              (.operand operator.precedence (some operator) false) left ++
            config.renderRight operator right) := by
  simp only [renderAt, core]
  split
  next => exact absurd rfl (apart rfl)
  next => rfl

theorem place_free (node : Node) (body : Rendering) :
    Position.free.place node body = body :=
  Rendering.empty_append body

/-- Behind its separator, an operand of a chain is written as the first one
is. -/
private theorem renderAt_joined (connective : operator.isConnective) (node : Node) :
    config.renderAt (.chained operator false) node =
      .write (" " ++ operator.symbol ++ " ") ++
        config.renderAt (.chained operator true) node := by
  have continues (other : BinaryOperator) : ∀ leads,
      (Position.chained operator leads).continues other = (operator = other) := by
    simp [Position.continues]
  -- A node of the same connective and a group that is opened hand their
  -- position on to a child; every other node is placed as a whole.
  cases node with
  | binary kind left right =>
      cases core : BinaryOperator.ofKind? kind with
      | none =>
          simp only [renderAt, core]
          exact Position.place_chained connective _
      | some own =>
          rw [renderAt_core core (by simp), renderAt_core core (by simp)]
          simp only [continues]
          by_cases same : operator = own
          · subst same
            simp only [connective, if_true]
            rw [renderAt_joined connective left, Rendering.append_assoc]
          · simp only [same, if_false]
            split
            · exact Position.place_chained connective _
            · exact Position.place_chained connective _
  | group inner =>
      simp only [renderAt, Bool.and_eq_true, continues]
      by_cases merges : operator = .or ∧ inner.isBinaryOf .or
      · rw [if_pos merges, if_pos merges]
        exact renderAt_joined connective inner
      · rw [if_neg merges, if_neg merges]
        exact Position.place_chained connective _
  | unary kind operand =>
      rw [renderAt.eq_def, renderAt.eq_def]
      exact Position.place_chained connective _
  | _ =>
      simp only [renderAt]
      exact Position.place_chained connective _

theorem renderAt_chained (connective : operator.isConnective) (leads : Bool)
    (node : Node) :
    config.renderAt (.chained operator leads) node =
      .write (Position.chained operator leads).separator ++
        config.renderAt (.chained operator true) node := by
  cases leads with
  | true => exact (Rendering.empty_append _).symm
  | false => exact renderAt_joined connective node

theorem renderAt_connective (connective : operator.isConnective)
    (core : BinaryOperator.ofKind? kind = some operator) (left right : Node) :
    config.renderAt .free (.binary kind left right) =
      config.renderAt (.chained operator true) left ++
        config.renderAt (.chained operator false) right := by
  rw [renderAt_core core (by simp), if_pos connective, if_neg]
  · exact place_free _ _
  · simp [Position.continues]

/-- A node that is not taken apart is written as on its own, in parentheses if
it has to be. -/
theorem renderAt_eq_place {position : Position} {node : Node}
    (whole : position.takesApart node = false) :
    config.renderAt position node =
      position.place node (config.renderAt .free node) := by
  cases node with
  | binary kind left right =>
      cases core : BinaryOperator.ofKind? kind with
      | none => simp only [renderAt, core, place_free]
      | some operator =>
          have apart : position = .bounds → operator ≠ .and := by
            rintro rfl rfl
            simp [Position.takesApart, Node.isBinaryOf, core] at whole
          by_cases connective : operator.isConnective
          · rw [renderAt_connective connective core, renderAt_core core apart,
              if_pos connective]
            split
            next chain =>
              obtain ⟨leads, rfl⟩ := Position.eq_chained_of_continues chain
              rw [Position.place_continued core connective,
                renderAt_chained connective leads, Rendering.append_assoc]
            next => rfl
          · rw [renderAt_core core apart, renderAt_core core (by simp),
              if_neg connective, if_neg connective, place_free]
  | group inner =>
      simp only [renderAt]
      split
      next merges =>
        obtain ⟨chain, disjunction⟩ := Bool.and_eq_true_iff.mp merges
        obtain ⟨leads, rfl⟩ := Position.eq_chained_of_continues chain
        simp [Position.takesApart, disjunction] at whole
      next => simp [place_free, Position.continues]
  | unary kind operand =>
      rw [renderAt.eq_def, renderAt.eq_def]
      simp only [place_free]
  | _ => simp only [renderAt, place_free]

end Config

end SqlExpr
