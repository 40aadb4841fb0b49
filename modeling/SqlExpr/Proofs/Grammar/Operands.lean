import SqlExpr.Proofs.Grammar.Value

/-!
# Reading the operands of arithmetic expressions

What is read from an operand stands in parentheses or goes on with the operator
before it.  Only a product can change its value when it takes in its right
operand; the operands that pass a value on do not even let a product do so.
-/

namespace SqlExpr

open SqlExpr.Grammar SqlExpr.Lexis

namespace Config

variable {config : Config} {columns : List Token → Int} {node : Node}

/-- What is read where an expression stands on its own. -/
def reading (config : Config) (node : Node) : Term :=
  (config.writtenAt .free node).reading

/-- What is read where it is an operand. -/
def operandReading (config : Config) (operator : BinaryOperator)
    (onRight : Bool) (node : Node) : Term :=
  (Position.operand operator.precedence (some operator) onRight).enclosed node
    (config.reading node)

theorem reading_enclosed {position : Position} {term : Term} :
    (position.enclosed node term).reading =
      position.enclosed node term.reading := by
  unfold Position.enclosed
  split <;> rfl

theorem writtenAt_operation {kind : String} {operator : BinaryOperator}
    {left right : Node} {position : Position}
    (named : BinaryOperator.ofKind? kind = some operator)
    (arithmetic : operator.isArithmetic) :
    config.writtenAt position (.binary kind left right) =
      position.enclosed (.binary kind left right)
        (.infixed (.core operator)
          (config.writtenAt
            (.operand operator.precedence (some operator) false) left)
          (config.writtenAt
            (.operand operator.precedence (some operator) true) right)) := by
  rw [writtenAt_plain named
    (BinaryOperator.mem_plainOperators_of_isArithmetic arithmetic)
    (BinaryOperator.not_isConnective_of_isArithmetic arithmetic),
    BinaryOperator.not_testsNull_of_isArithmetic arithmetic]
  rfl

theorem not_isBinaryOf_or_of_isArithmetic (arithmetic : node.IsArithmetic) :
    node.isBinaryOf .or = false := by
  cases arithmetic with
  | leaf leaf => cases leaf <;> rfl
  | @operation kind operator _ _ named arithmetic =>
      cases operator <;>
        first
        | (cases arithmetic; done)
        | simp [Node.isBinaryOf, named]
  | group => rfl

theorem reading_writtenAt (arithmetic : node.IsArithmetic)
    (position : Position) :
    (config.writtenAt position node).reading =
      position.enclosed node (config.reading node) := by
  have same : config.writtenAt position node =
      position.enclosed node (config.writtenAt .free node) := by
    cases arithmetic with
    | leaf leaf => cases leaf <;> rfl
    | operation named arithmetic =>
        rw [writtenAt_operation named arithmetic,
          writtenAt_operation named arithmetic]
        rfl
    | group arithmetic =>
        have apart := not_isBinaryOf_or_of_isArithmetic arithmetic
        simp only [writtenAt, apart, Bool.and_false, Bool.false_eq_true,
          ↓reduceIte]
        rfl
  rw [same, reading_enclosed, reading]

section Operation

variable {kind : String} {operator : BinaryOperator} {left right : Node}

theorem reading_operation
    (named : BinaryOperator.ofKind? kind = some operator)
    (arithmetic : operator.isArithmetic)
    (leftArithmetic : left.IsArithmetic)
    (rightArithmetic : right.IsArithmetic) :
    config.reading (.binary kind left right) =
      .graft Term.sharesRank (.core operator)
        (config.operandReading operator false left)
        (config.operandReading operator true right) := by
  rw [operandReading, operandReading, ← reading_writtenAt leftArithmetic,
    ← reading_writtenAt rightArithmetic, reading,
    writtenAt_operation named arithmetic]
  rfl

theorem value?_operandReading {onRight : Bool} :
    (config.operandReading operator onRight node).value? columns =
      (config.reading node).value? columns := by
  unfold operandReading Position.enclosed
  split <;> rfl

theorem isTight_operandReading (arithmetic : node.IsArithmetic)
    (apart : operator.isAssociative = false) :
    Term.IsTight (.core operator)
      (config.operandReading operator true node) := by
  have expression := arithmetic.isExpression coreOperators
  have right : operator.precedence.rank < (config.writtenAt
      (.operand operator.precedence (some operator) true) node).rank ∨ _ :=
    onRight_writtenAt (coreOperators_describes config) expression
  rw [operandReading, ← reading_writtenAt arithmetic, Term.IsTight,
    Term.rank_reading]
  obtain tight | ⟨other, same, associative, _⟩ := right
  · exact tight
  · cases same
    rw [apart] at associative
    cases associative

/-- Only a product can change its value when it takes in its right operand. -/
theorem value?_graft_operandReading {before : Term}
    (arithmetic : node.IsArithmetic) (isArithmetic : operator.isArithmetic)
    (apart : operator ≠ .multiply) :
    (Term.graft Term.sharesRank (.core operator) before
        (config.operandReading operator true node)).value? columns =
      (before.value? columns).bind fun first =>
        ((config.reading node).value? columns).bind
          (operator.compute? first) := by
  rw [← value?_operandReading]
  cases associative : operator.isAssociative with
  | false =>
      rw [Term.graft_of_isTight
        (isTight_operandReading arithmetic associative)]
      rfl
  | true =>
      rw [Term.value?_graft]
      · rfl
      · intro other same
        have ranks : (InfixOperator.core operator).rank = other.rank := by
          simpa [Term.sharesRank] using same
        have merges : (InfixOperator.core operator).isAssociative :=
          associative
        obtain joined | ⟨product, _⟩ := Term.isRegrouped_of_rank merges ranks
        · exact InfixOperator.reassociates_of_isRegrouped joined
        · cases product
          exact absurd rfl apart

/-- An operation on the right of a product is read from the left. -/
theorem graft_reading_operation
    (named : BinaryOperator.ofKind? kind = some operator)
    (arithmetic : operator.isArithmetic)
    (precedence : operator.precedence = .multiplicative)
    (leftArithmetic : left.IsArithmetic)
    (rightArithmetic : right.IsArithmetic) (before : Term) :
    Term.graft Term.sharesRank (.core .multiply) before
        (config.reading (.binary kind left right)) =
      .graft Term.sharesRank (.core operator)
        (.graft Term.sharesRank (.core .multiply) before
          (config.operandReading operator false left))
        (config.operandReading operator true right) := by
  have joined : Term.sharesRank (.core .multiply) (.core operator) := by
    simp [Term.sharesRank, InfixOperator.rank, InfixOperator.precedence,
      precedence]
    rfl
  rw [reading_operation named arithmetic leftArithmetic rightArithmetic,
    Term.graft_assoc Term.sharesRank_trans joined]

end Operation

theorem operandReading_of_beginsWithQuotient
    (begins : node.beginsWithQuotient) :
    config.operandReading .multiply false node = config.reading node := by
  have bare : (Position.operand .multiplicative (some .multiply)
      false).parenthesizes node = false := by
    unfold Node.beginsWithQuotient at begins
    split at begins
    · split at begins
      next named =>
        simp [Position.parenthesizes, needsParentheses, Node.binding?, named,
          BinaryOperator.precedence, Precedence.isChainable]
      next named =>
        simp [Position.parenthesizes, needsParentheses, Node.binding?, named,
          BinaryOperator.precedence, Precedence.isChainable]
      next => cases begins
    · cases begins
  exact if_neg (Bool.not_eq_true _ ▸ bare)

theorem operandReading_of_isBinaryOf (product : node.isBinaryOf .multiply) :
    config.operandReading .multiply true node = config.reading node := by
  have bare : (Position.operand .multiplicative (some .multiply)
      true).parenthesizes node = false := by
    cases node with
    | binary kind left right =>
        have named : BinaryOperator.ofKind? kind = some .multiply := by
          simpa [Node.isBinaryOf] using product
        simp [Position.parenthesizes, needsParentheses, Node.binding?, named,
          BinaryOperator.precedence, Precedence.isChainable,
          BinaryOperator.isAssociative]
    | _ => cases product
  exact if_neg (Bool.not_eq_true _ ▸ bare)

/-! ## Operands that pass a value on -/

/-- A term that leaves the value of what stands before it as it is, also if the
operator takes the term in. -/
def Passes (columns : List Token → Int) (operator : BinaryOperator)
    (term : Term) : Prop :=
  ∀ before : Term,
    (Term.graft Term.sharesRank (.core operator) before term).value? columns =
      before.value? columns

section Passes

variable {operator : BinaryOperator}

theorem passes_of_rank_ne {term : Term}
    (apart : (InfixOperator.core operator).rank ≠ term.rank)
    (arithmetic : operator.isArithmetic)
    (value : term.value? columns = some operator.neutral) :
    Passes columns operator term := by
  intro before
  rw [Term.graft_of_rank_ne apart, Term.value?_infixed, value]
  cases before.value? columns with
  | none => rfl
  | some first => exact BinaryOperator.compute?_neutral arithmetic first

theorem Passes.enclosed {term : Term} {position : Position}
    (passes : Passes columns .multiply term)
    (value : term.value? columns = some 1) :
    Passes columns .multiply (position.enclosed node term) := by
  unfold Position.enclosed
  split
  · refine passes_of_rank_ne (Nat.ne_of_lt ?_) rfl value
    exact Term.BindsAs.rank_grouped .multiplicative term
  · exact passes

theorem passes_operandReading (arithmetic : node.IsArithmetic)
    (isArithmetic : operator.isArithmetic)
    (value : (config.reading node).value? columns = some operator.neutral)
    (product : operator = .multiply →
      Passes columns .multiply (config.reading node)) :
    Passes columns operator (config.operandReading operator true node) := by
  by_cases multiply : operator = .multiply
  · subst multiply
    exact (product rfl).enclosed value
  · intro before
    rw [value?_graft_operandReading arithmetic isArithmetic multiply, value]
    cases before.value? columns with
    | none => rfl
    | some first => exact BinaryOperator.compute?_neutral isArithmetic first

end Passes

end Config

end SqlExpr
