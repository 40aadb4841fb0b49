import SqlExpr.Proofs.Grammar.Normal
import SqlExpr.Proofs.Grammar.Reading
import SqlExpr.Proofs.Grammar.Written
import SqlExpr.Proofs.Output.Data
import SqlExpr.Proofs.Output.Operand

/-!
# Renderings keep the grouping of a tree

A rendering can be read back, and what is read is the tree again, up to the
order in which chains, sums and products are put together.  The parentheses
that are left out are those without which the term holds together; only where
a product is taken into another one although it begins with a quotient, the
operands of that quotient are read in another way.
-/

namespace SqlExpr

open SqlExpr.Grammar SqlExpr.Lexis

namespace Node

def beginsWithQuotient : Node → Bool
  | .binary kind left _ =>
    match BinaryOperator.ofKind? kind with
    | some .divide => true
    | some .multiply => left.beginsWithQuotient
    | _ => false
  | _ => false

/-- Whether a node is a product with another one on its right that begins with
a quotient. -/
def mergesQuotient : Node → Bool
  | .binary kind _ right =>
    BinaryOperator.ofKind? kind = some .multiply &&
      right.isBinaryOf .multiply && right.beginsWithQuotient
  | _ => false

/-- No product of the tree has another one on its right that begins with a
quotient, unless it stands in a group. -/
def KeepsQuotients (node : Node) : Prop :=
  node.All fun inner => inner.mergesQuotient = false

instance (node : Node) : Decidable node.KeepsQuotients :=
  inferInstanceAs
    (Decidable (∀ inner ∈ node.subnodes, inner.mergesQuotient = false))

end Node

/-! ## Operands that are written without parentheses -/

/-- A term for a node before the node is put in parentheses: it binds as
tightly as the node, and its operator is the node's. -/
structure Grammar.Term.BindsAs (term : Term) (node : Node) : Prop where
  free : node.binding? = none → Precedence.multiplicative.rank < term.rank
  bound : ∀ precedence operator?,
    node.binding? = some (precedence, operator?) → term.rank = precedence.rank
  joined : ∀ precedence operator,
    node.binding? = some (precedence, some operator) →
      operator.isAssociative →
        ∃ left right, term = .infixed (.core operator) left right

namespace Grammar.Term.BindsAs

variable {term : Term} {node : Node} {precedence : Precedence}
  {operator? : Option BinaryOperator}

theorem rank_grouped (precedence : Precedence) (inner : Term) :
    precedence.rank < (Term.grouped inner).rank :=
  Nat.lt_succ_of_le precedence.rank_le

/-- A node without parentheses binds more tightly than the operator beside it,
or goes on with an operator of the same precedence. -/
theorem rank_of_bare (binds : term.BindsAs node) {onRight : Bool}
    (bare : needsParentheses precedence operator? onRight node = false) :
    precedence.rank < term.rank ∨
      ∃ own?, node.binding? = some (precedence, own?) ∧
        precedence.isChainable ∧
          (onRight → own? = operator? ∧
            own?.any BinaryOperator.isAssociative) := by
  unfold needsParentheses at bare
  cases binding : node.binding? with
  | none => exact .inl (precedence.rank_le.trans_lt (binds.free binding))
  | some own =>
      obtain ⟨own, own?⟩ := own
      simp only [binding] at bare
      split at bare
      next same =>
        subst same
        simp only [Bool.or_eq_false_iff, Bool.not_eq_eq_eq_not, Bool.not_false,
          Bool.and_eq_false_imp, decide_eq_true_eq] at bare
        exact .inr ⟨own?, rfl, bare.1, bare.2⟩
      next apart =>
        have order : precedence.rank ≤ own.rank := by simpa using bare
        refine .inl ?_
        rw [binds.bound own own? binding]
        refine lt_of_le_of_ne order fun same => ?_
        exact apart (Precedence.rank_injective same.symm)

theorem isTakenBy (binds : term.BindsAs node) :
    ((Position.operand precedence operator? false).enclosed node
      term).isTakenBy precedence := by
  rw [isTakenBy_iff]
  unfold Position.enclosed
  split
  next => exact .inl (rank_grouped precedence term)
  next bare =>
    rw [Bool.not_eq_true] at bare
    obtain tight | ⟨own?, binding, chainable, _⟩ := binds.rank_of_bare bare
    · exact .inl tight
    · exact .inr ⟨chainable, (binds.bound _ _ binding).symm⟩

theorem isBinaryOf_of_binding? {operator : BinaryOperator}
    (binding : node.binding? = some (precedence, some operator)) :
    node.isBinaryOf operator := by
  unfold Node.binding? at binding
  split at binding
  · split at binding
    next named =>
      cases binding
      simpa [Node.isBinaryOf] using named
    next => cases binding
  · cases binding
  · cases binding

theorem onRight (binds : term.BindsAs node) :
    precedence.rank <
        ((Position.operand precedence operator? true).enclosed node
          term).rank ∨
      ∃ operator, operator? = some operator ∧ operator.isAssociative ∧
        node.isBinaryOf operator ∧ ∃ left right,
          (Position.operand precedence operator? true).enclosed node term =
            .infixed (.core operator) left right := by
  unfold Position.enclosed
  split
  next => exact .inl (rank_grouped precedence term)
  next bare =>
    rw [Bool.not_eq_true] at bare
    obtain tight | ⟨own?, binding, _, merges⟩ := binds.rank_of_bare bare
    · exact .inl tight
    · obtain ⟨same, associative⟩ := merges rfl
      cases own? with
      | none => cases associative
      | some operator =>
          exact .inr ⟨operator, same.symm, associative,
            isBinaryOf_of_binding? binding,
            binds.joined _ _ binding associative⟩

theorem isBinaryOf_of_connective {operator : BinaryOperator}
    (connective : operator.isConnective)
    (binding : node.binding? = some (operator.precedence, operator?)) :
    node.isBinaryOf operator := by
  cases Node.own_of_connective connective binding
  exact isBinaryOf_of_binding? binding

theorem chained (binds : term.BindsAs node) {operator : BinaryOperator}
    (connective : operator.isConnective)
    (other : node.isBinaryOf operator = false) {leads : Bool} :
    operator.precedence.rank <
      ((Position.chained operator leads).enclosed node term).rank := by
  unfold Position.enclosed
  split
  next => exact rank_grouped operator.precedence term
  next bare =>
    rw [Bool.not_eq_true] at bare
    obtain tight | ⟨own?, binding, _⟩ := binds.rank_of_bare bare
    · exact tight
    · rw [isBinaryOf_of_connective connective binding] at other
      cases other

theorem ofFree (unbound : node.binding? = none)
    (tight : Precedence.multiplicative.rank < term.rank) :
    term.BindsAs node where
  free _ := tight
  bound _ _ binding := by simp [unbound] at binding
  joined _ _ binding := by simp [unbound] at binding

theorem ofBound (bound : node.binding? = some (precedence, operator?))
    (rank : term.rank = precedence.rank)
    (joined : ∀ operator, operator? = some operator →
      operator.isAssociative →
        ∃ left right, term = .infixed (.core operator) left right) :
    term.BindsAs node where
  free unbound := by simp [unbound] at bound
  bound _ _ binding := by
    rw [bound] at binding
    cases binding
    exact rank
  joined _ _ binding := by
    rw [bound] at binding
    cases binding
    exact joined _ rfl

end Grammar.Term.BindsAs

namespace Config

variable {table : OperatorTable} {config : Config}

/-- How an expression is written: as an operand of the chain that it stands in,
or as a term that binds as tightly as the expression, in parentheses where
these are needed. -/
def WritesOperand (config : Config) (position : Position) (node : Node) :
    Prop :=
  (∃ operator left right, position.continues operator ∧
      config.writtenAt position node =
        .infixed (.core operator) left right) ∨
    ∃ term, config.writtenAt position node = position.enclosed node term ∧
      term.BindsAs node ∧ ∀ operator : BinaryOperator, operator.isConnective →
        position.continues operator → node.isBinaryOf operator = false

theorem comparison_of_testsNull {operator : BinaryOperator}
    (tests : operator.testsNull) :
    operator.precedence = .comparison ∧ operator.isAssociative = false := by
  cases operator <;> first | exact ⟨rfl, rfl⟩ | cases tests

namespace WritesOperand

variable {position : Position} {node : Node} {term : Term}

theorem ofFree
    (written : config.writtenAt position node = position.enclosed node term)
    (unbound : node.binding? = none)
    (tight : Precedence.multiplicative.rank < term.rank) :
    config.WritesOperand position node := by
  refine .inr ⟨term, written, .ofFree unbound tight, ?_⟩
  intro operator _ _
  rw [Bool.eq_false_iff]
  intro binary
  cases node with
  | binary kind left right =>
      simp only [Node.binding?] at unbound
      split at unbound <;> cases unbound
  | _ => cases binary

variable {kind : String} {operator : BinaryOperator} {left right : Node}

theorem ofCore (named : BinaryOperator.ofKind? kind = some operator)
    (written : config.writtenAt position (.binary kind left right) =
      position.enclosed (.binary kind left right) term)
    (rank : term.rank = operator.precedence.rank)
    (joined : operator.isAssociative →
      ∃ first second, term = .infixed (.core operator) first second)
    (apart : ¬ position.continues operator) :
    config.WritesOperand position (.binary kind left right) := by
  have bound : (Node.binary kind left right).binding? =
      some (operator.precedence, some operator) := by
    simp only [Node.binding?, named]
  refine .inr ⟨term, written, .ofBound bound rank ?_, ?_⟩
  · rintro _ ⟨⟩
    exact joined
  · intro other _ continues
    rw [Bool.eq_false_iff]
    intro binary
    have same : operator = other := by
      simpa [Node.isBinaryOf, named] using binary
    exact apart (same ▸ continues)

theorem registered (describes : table.Describes config)
    (known : kind ∈ table.kinds) :
    config.WritesOperand position (.binary kind left right) := by
  obtain ⟨core, _⟩ :=
    describes.form _ (OperatorTable.token_registered known)
  have bound : (Node.binary kind left right).binding? =
      some (.other, none) := by
    simp only [Node.binding?, core]
  refine .inr ⟨_, writtenAt_registered core, .ofBound bound rfl ?_, ?_⟩
  · rintro operator ⟨⟩
  · intro operator _ _
    simp [Node.isBinaryOf, core]

theorem connective (named : BinaryOperator.ofKind? kind = some operator)
    (joins : operator.isConnective) :
    config.WritesOperand position (.binary kind left right) := by
  have written : config.writtenAt position (.binary kind left right) = _ :=
    writtenAt_connective named joins
  by_cases continues : position.continues operator
  · rw [if_pos continues] at written
    exact .inl ⟨operator, _, _, continues, written⟩
  · rw [if_neg continues] at written
    exact .ofCore named written rfl (fun _ => ⟨_, _, rfl⟩) continues

theorem plain (named : BinaryOperator.ofKind? kind = some operator)
    (plain : operator ∈ plainOperators)
    (joins : operator.isConnective = false)
    (apart : ¬ position.continues operator) :
    config.WritesOperand position (.binary kind left right) := by
  refine .ofCore named (writtenAt_plain named plain joins) ?_ ?_ apart
  · split
    next null =>
      rw [Bool.and_eq_true] at null
      rw [(comparison_of_testsNull null.1).1]
      rfl
    next => rfl
  · intro associative
    split
    next null =>
      rw [Bool.and_eq_true] at null
      rw [(comparison_of_testsNull null.1).2] at associative
      cases associative
    next => exact ⟨_, _, rfl⟩

theorem negation {operand : Node} :
    config.WritesOperand position (.unary "NOT" operand) := by
  have bound : (Node.unary "NOT" operand).binding? = some (.not, none) := rfl
  refine .inr ⟨_, rfl, .ofBound bound rfl ?_, fun _ _ _ => rfl⟩
  rintro operator ⟨⟩

/-- A group of alternatives in a chain of OR goes on with the chain. -/
theorem group {inner : Node} (writes : config.WritesOperand position inner) :
    config.WritesOperand position (.group inner) := by
  by_cases joins : position.continues .or && inner.isBinaryOf .or
  · have same : config.writtenAt position (.group inner) =
        config.writtenAt position inner := by
      rw [writtenAt, if_pos joins]
    rw [Bool.and_eq_true] at joins
    obtain ⟨operator, left, right, continues, written⟩ |
      ⟨term, _, _, other⟩ := writes
    · exact .inl ⟨operator, left, right, continues, same.trans written⟩
    · have contrary := other .or rfl joins.1
      rw [joins.2] at contrary
      cases contrary
  · have written : config.writtenAt position (.group inner) =
        position.enclosed (.group inner)
          (.grouped (config.writtenAt .free inner)) := by
      rw [writtenAt, if_neg joins]
    exact .ofFree written rfl (Nat.lt_succ_self _)

end WritesOperand

theorem writesOperand (describes : table.Describes config) {node : Node}
    (expression : node.IsExpression table) (position : Position)
    (chain : ∀ operator, position.continues operator → operator.isConnective) :
    config.WritesOperand position node := by
  have apart {operator : BinaryOperator}
      (other : operator.isConnective = false) :
      ¬ position.continues operator := by
    intro continues
    rw [chain operator continues] at other
    cases other
  induction expression with
  | column | literal | call | caseWhen =>
      exact .ofFree rfl rfl (Nat.lt_succ_self _)
  | registered known => exact .registered describes known
  | @core kind operator _ _ named plain =>
      cases joins : operator.isConnective with
      | true => exact .connective named joins
      | false => exact .plain named plain joins (apart joins)
  | between | inList | notInList => exact .ofCore rfl rfl rfl nofun (apart rfl)
  | negation => exact .negation
  | group _ inner => exact .group inner

theorem beginsWithQuotient_enclosed {position : Position} {node : Node}
    {term : Term}
    (begins : (position.enclosed node term).beginsWithQuotient) :
    term.beginsWithQuotient := by
  unfold Position.enclosed at begins
  split at begins
  · cases begins
  · exact begins

theorem not_beginsWithQuotient_of_or {node : Node}
    (binary : node.isBinaryOf .or) : node.beginsWithQuotient = false := by
  cases node with
  | binary kind left right =>
      have named : BinaryOperator.ofKind? kind = some .or := by
        simpa [Node.isBinaryOf] using binary
      simp only [Node.beginsWithQuotient, named]
  | _ => cases binary

theorem beginsWithQuotient_of_writtenAt (describes : table.Describes config)
    {node : Node} (expression : node.IsExpression table) (position : Position)
    (begins : (config.writtenAt position node).beginsWithQuotient) :
    node.beginsWithQuotient := by
  induction expression generalizing position with
  | column | literal | call | caseWhen | negation | between | inList
  | notInList => cases beginsWithQuotient_enclosed begins
  | @registered kind left right known _ _ _ _ =>
      obtain ⟨core, _⟩ :=
        describes.form _ (OperatorTable.token_registered known)
      rw [writtenAt_registered core] at begins
      cases beginsWithQuotient_enclosed begins
  | @core kind operator left right named plain _ _ leftBegins _ =>
      cases joins : operator.isConnective with
      | true =>
          rw [writtenAt_connective named joins] at begins
          split at begins
          · cases operator <;> first | (cases joins; done) | cases begins
          · have inner := beginsWithQuotient_enclosed begins
            cases operator <;> first | (cases joins; done) | cases inner
      | false =>
          rw [writtenAt_plain named plain joins] at begins
          have inner := beginsWithQuotient_enclosed begins
          split at inner
          · cases inner
          · cases operator with
            | divide => simp [Node.beginsWithQuotient, named]
            | multiply =>
                simpa [Node.beginsWithQuotient, named] using leftBegins _ inner
            | _ => cases inner
  | @group inner expression induction =>
      rw [writtenAt] at begins
      split at begins
      next joins =>
        rw [Bool.and_eq_true] at joins
        have contrary := induction position begins
        rw [not_beginsWithQuotient_of_or joins.2] at contrary
        cases contrary
      next => cases beginsWithQuotient_enclosed begins

theorem isLiteral_tokens {value : Value}
    (written : value.isNull = false →
      ∃ text, (Part.value value).render config = .write text) :
    IsLiteral ((Part.value value).tokens config) := by
  cases null : value.isNull with
  | true =>
      cases value with
      | null =>
          have read : (Part.value .null).render config = .write "NULL" := rfl
          rw [Part.tokens_eq read ⟨[], _, _, rfl, rfl, rfl⟩]
          exact .keyword "NULL" (by simp)
      | _ => cases null
  | false =>
      obtain ⟨text, own⟩ := written null
      obtain ⟨tokens, read, literal⟩ :=
        Value.reads_literal (Rendering.ofResult_eq_write own)
      rwa [Part.tokens_eq own read]

theorem isReference_tokens {table? : Option String} {name : String}
    (written : ∃ text,
      (Part.reference table? name).render config = .write text) :
    IsReference ((Part.reference table? name).tokens config) := by
  obtain ⟨text, own⟩ := written
  obtain ⟨tokens, read, reference⟩ := config.reads_column own
  rwa [Part.tokens_eq own read]

section Operands

variable {node : Node} {precedence : Precedence}
  {operator? : Option BinaryOperator}

theorem isTakenBy_writtenAt (describes : table.Describes config)
    (expression : node.IsExpression table) :
    (config.writtenAt (.operand precedence operator? false) node).isTakenBy
      precedence := by
  obtain ⟨_, _, _, continues, _⟩ | ⟨term, written, binds, _⟩ :=
    writesOperand describes expression (.operand precedence operator? false)
      Position.connective_of_operand
  · cases continues
  · rw [written]
    exact binds.isTakenBy

theorem onRight_writtenAt (describes : table.Describes config)
    (expression : node.IsExpression table) :
    precedence.rank <
        (config.writtenAt (.operand precedence operator? true) node).rank ∨
      ∃ operator, operator? = some operator ∧ operator.isAssociative ∧
        node.isBinaryOf operator ∧ ∃ left right,
          config.writtenAt (.operand precedence operator? true) node =
            .infixed (.core operator) left right := by
  obtain ⟨_, _, _, continues, _⟩ | ⟨term, written, binds, _⟩ :=
    writesOperand describes expression (.operand precedence operator? true)
      Position.connective_of_operand
  · cases continues
  · rw [written]
    exact binds.onRight

theorem chained_writtenAt (describes : table.Describes config)
    (expression : node.IsExpression table) {operator : BinaryOperator}
    (connective : operator.isConnective) (leads : Bool) :
    operator.precedence.rank <
        (config.writtenAt (.chained operator leads) node).rank ∨
      ∃ left right, config.writtenAt (.chained operator leads) node =
        .infixed (.core operator) left right := by
  have chain {other : BinaryOperator}
      (continues : (Position.chained operator leads).continues other) :
      operator = other := by
    simpa [Position.continues] using continues
  obtain ⟨other, left, right, continues, written⟩ |
    ⟨term, written, binds, other⟩ :=
    writesOperand describes expression (.chained operator leads)
      fun other continues => chain continues ▸ connective
  · cases chain continues
    exact .inr ⟨left, right, written⟩
  · rw [written]
    have apart := other operator connective (by simp [Position.continues])
    exact .inl (binds.chained connective apart)

theorem isJoined_chained (describes : table.Describes config)
    (expression : node.IsExpression table) {operator : BinaryOperator}
    (connective : operator.isConnective) (keeps : Prop) :
    Term.IsJoined keeps (.core operator)
      (config.writtenAt (.chained operator false) node) := by
  obtain tight | shape :=
    chained_writtenAt describes expression connective false
  · exact .inl tight
  · refine .inr ⟨?_, shape, fun _ product => ?_⟩
    · cases operator <;> first | rfl | cases connective
    · cases product
      cases connective

theorem isTakenBy_chained (describes : table.Describes config)
    (expression : node.IsExpression table) {operator : BinaryOperator}
    (connective : operator.isConnective) (leads : Bool) :
    (config.writtenAt (.chained operator leads) node).isTakenBy
      operator.precedence := by
  rw [Term.isTakenBy_iff]
  obtain tight | ⟨left, right, shape⟩ :=
    chained_writtenAt describes expression connective leads
  · exact .inl tight
  · rw [shape]
    refine .inr ⟨?_, rfl⟩
    cases operator <;> first | rfl | cases connective

theorem isJoined_onRight (describes : table.Describes config)
    (expression : node.IsExpression table) {operator : BinaryOperator}
    {keeps : Prop}
    (kept : keeps → operator = .multiply → node.isBinaryOf .multiply →
      node.beginsWithQuotient = false) :
    Term.IsJoined keeps (.core operator)
      (config.writtenAt
        (.operand operator.precedence (some operator) true) node) := by
  have right : operator.precedence.rank < (config.writtenAt
      (.operand operator.precedence (some operator) true) node).rank ∨ _ :=
    onRight_writtenAt describes expression
  obtain tight | ⟨other, same, associative, binary, shape⟩ := right
  · exact .inl tight
  · cases same
    refine .inr ⟨associative, shape, fun keep product => ?_⟩
    cases product
    rw [Bool.eq_false_iff]
    intro begins
    have contrary := beginsWithQuotient_of_writtenAt describes expression _
      begins
    rw [kept keep rfl binary] at contrary
    cases contrary

end Operands

theorem isGrouped_enclosed {right : InfixOperator → Term → Prop}
    {position : Position} {node : Node} {term : Term}
    (grouped : term.IsGrouped table right) :
    (position.enclosed node term).IsGrouped table right := by
  unfold Position.enclosed
  split
  · exact .grouped grouped
  · exact grouped

/-- Wherever a node stands, the term that it is written as holds together, and
its products are joined if `keeps` holds. -/
def HoldsTogether (config : Config) (table : OperatorTable) (keeps : Prop)
    (node : Node) : Prop :=
  ∀ position : Position,
    (∀ operator, position.continues operator → operator.isConnective) →
      (config.writtenAt position node).IsGrouped table (Term.IsJoined keeps)

namespace HoldsTogether

variable {keeps : Prop} {node left right : Node}

theorem free (holds : config.HoldsTogether table keeps node) :
    (config.writtenAt .free node).IsGrouped table (Term.IsJoined keeps) :=
  holds .free Position.connective_of_free

theorem operand (holds : config.HoldsTogether table keeps node)
    {precedence : Precedence} {operator? : Option BinaryOperator}
    {onRight : Bool} :
    (config.writtenAt (.operand precedence operator? onRight) node).IsGrouped
      table (Term.IsJoined keeps) :=
  holds (.operand precedence operator? onRight) Position.connective_of_operand

theorem chained (holds : config.HoldsTogether table keeps node)
    {operator : BinaryOperator} (connective : operator.isConnective)
    (leads : Bool) :
    (config.writtenAt (.chained operator leads) node).IsGrouped table
      (Term.IsJoined keeps) := by
  refine holds (.chained operator leads) fun other continues => ?_
  have same : operator = other := by
    simpa [Position.continues] using continues
  exact same ▸ connective

theorem ofEnclosed {term : Term}
    (written : ∀ position,
      config.writtenAt position node = position.enclosed node term)
    (grouped : term.IsGrouped table (Term.IsJoined keeps)) :
    config.HoldsTogether table keeps node := by
  intro position _
  rw [written]
  exact isGrouped_enclosed grouped

theorem column {table? : Option String} {name : String}
    (written : ∃ text,
      (Part.reference table? name).render config = .write text) :
    config.HoldsTogether table keeps (.column table? name) :=
  ofEnclosed (fun position => by rw [writtenAt])
    (.reference (isReference_tokens written))

theorem literal {value : Value}
    (written : value.isNull = false →
      ∃ text, (Part.value value).render config = .write text) :
    config.HoldsTogether table keeps (.literal value none) :=
  ofEnclosed (fun position => by rw [writtenAt])
    (.literal (isLiteral_tokens written))

section Binary

variable {kind : String} {operator : BinaryOperator}
  (describes : table.Describes config)
  (leftExpression : left.IsExpression table)
  (rightExpression : right.IsExpression table)
  (leftHolds : config.HoldsTogether table keeps left)
  (rightHolds : config.HoldsTogether table keeps right)
include describes leftExpression rightExpression leftHolds rightHolds

theorem registered (known : kind ∈ table.kinds) :
    config.HoldsTogether table keeps (.binary kind left right) := by
  obtain ⟨core, _⟩ :=
    describes.form _ (OperatorTable.token_registered known)
  have tight : Precedence.other.rank <
      (config.writtenAt (.operand .other none true) right).rank := by
    obtain tight | ⟨operator, none, _⟩ :=
      onRight_writtenAt describes rightExpression
    · exact tight
    · cases none
  exact ofEnclosed (fun position => writtenAt_registered core)
    (.infixed known (isTakenBy_writtenAt describes leftExpression)
      (.inl tight) leftHolds.operand rightHolds.operand)

theorem connective (named : BinaryOperator.ofKind? kind = some operator)
    (plain : operator ∈ plainOperators) (joins : operator.isConnective) :
    config.HoldsTogether table keeps (.binary kind left right) := by
  intro position chain
  have joined := isJoined_chained describes rightExpression joins keeps
  have taken (leads : Bool) :=
    isTakenBy_chained describes leftExpression joins leads
  have last := rightHolds.chained joins false
  rw [writtenAt_connective named joins]
  split
  next continues =>
    obtain ⟨leads, rfl⟩ := Position.eq_chained_of_continues continues
    exact .infixed plain (taken leads) joined
      (leftHolds.chained joins leads) last
  next =>
    exact isGrouped_enclosed (.infixed plain (taken true) joined
      (leftHolds.chained joins true) last)

theorem plain (named : BinaryOperator.ofKind? kind = some operator)
    (plain : operator ∈ plainOperators)
    (apart : operator.isConnective = false)
    (kept : keeps → (Node.binary kind left right).mergesQuotient = false) :
    config.HoldsTogether table keeps (.binary kind left right) := by
  have taken : (config.writtenAt (.operand operator.precedence
      (some operator) false) left).isTakenBy operator.precedence :=
    isTakenBy_writtenAt describes leftExpression
  refine ofEnclosed (fun position => writtenAt_plain named plain apart) ?_
  split
  next null =>
    rw [Bool.and_eq_true] at null
    rw [(comparison_of_testsNull null.1).1] at taken ⊢
    exact .nullTest taken leftHolds.operand
  next =>
    refine .infixed plain taken (isJoined_onRight describes rightExpression ?_)
      leftHolds.operand rightHolds.operand
    rintro keep rfl binary
    simpa [Node.mergesQuotient, named, binary] using kept keep

end Binary

section Range

variable {operand low high : Node} (describes : table.Describes config)
  (expression : operand.IsExpression table)
  (holds : config.HoldsTogether table keeps operand)
include describes expression holds

theorem between (lowExpression : low.IsExpression table)
    (highExpression : high.IsExpression table)
    (lowHolds : config.HoldsTogether table keeps low)
    (highHolds : config.HoldsTogether table keeps high) :
    config.HoldsTogether table keeps
      (.binary "BETWEEN" operand (.binary "AND" low high)) := by
  have lowTight : Precedence.range.rank < (config.writtenAt
      (.operand .range (some .between) false) low).rank := by
    have taken : (config.writtenAt (.operand .range (some .between) false)
        low).isTakenBy .range := isTakenBy_writtenAt describes lowExpression
    obtain tight | ⟨chainable, _⟩ := Term.isTakenBy_iff.mp taken
    · exact tight
    · cases chainable
  have highTight : Precedence.range.rank < (config.writtenAt
      (.operand .range (some .between) true) high).rank := by
    obtain tight | ⟨_, same, associative, _⟩ :=
      onRight_writtenAt describes highExpression
    · exact tight
    · cases same
      cases associative
  exact ofEnclosed (fun _ => rfl)
    (.between (isTakenBy_writtenAt describes expression) lowTight highTight
      holds.operand lowHolds.operand highHolds.operand)

theorem member {kind : String} {items : List Node} (negated : Bool)
    (named : BinaryOperator.ofKind? kind =
      some (if negated then .notInList else .inList))
    (nonempty : items ≠ [])
    (itemsHold : ∀ item ∈ items, config.HoldsTogether table keeps item) :
    config.HoldsTogether table keeps
      (.binary kind operand (.group (.list items))) := by
  refine ofEnclosed (fun position => writtenAt_member rfl named)
    (.member (isTakenBy_writtenAt describes expression) ?_ holds.operand ?_)
  · simpa [writtenOfAll_eq_map] using nonempty
  · rw [writtenOfAll_eq_map, List.forall_mem_map]
    exact fun item among => (itemsHold item among).free

end Range

theorem negation {operand : Node}
    (holds : config.HoldsTogether table keeps operand) :
    config.HoldsTogether table keeps (.unary "NOT" operand) :=
  ofEnclosed (fun _ => rfl)
    (.negation (Nat.le_add_left 3 6) (.grouped holds.free))

theorem call (name : String) {arguments : List Node}
    (holds : ∀ argument ∈ arguments,
      config.HoldsTogether table keeps argument) :
    config.HoldsTogether table keeps (.call name arguments) := by
  refine ofEnclosed (fun _ => rfl) (.call name ?_)
  rw [writtenOfAll_eq_map, List.forall_mem_map]
  exact fun argument among => (holds argument among).free

theorem caseWhen {branches : List (Node × Node)} {otherwise? : Option Node}
    (nonempty : branches ≠ [])
    (conditions : ∀ branch ∈ branches,
      config.HoldsTogether table keeps branch.1)
    (results : ∀ branch ∈ branches, config.HoldsTogether table keeps branch.2)
    (otherwise : ∀ result ∈ otherwise?,
      config.HoldsTogether table keeps result) :
    config.HoldsTogether table keeps (.caseWhen branches otherwise?) := by
  refine ofEnclosed (fun _ => rfl) (.caseWhen ?_ ?_ ?_ ?_)
  · simpa [writtenOfBranches_eq_map] using nonempty
  · rw [writtenOfBranches_eq_map, List.forall_mem_map]
    exact fun branch among => (conditions branch among).free
  · rw [writtenOfBranches_eq_map, List.forall_mem_map]
    exact fun branch among => (results branch among).free
  · rw [writtenOfElse_eq_map]
    intro result among
    obtain ⟨own, found, rfl⟩ := Option.map_eq_some_iff.mp among
    exact (otherwise own found).free

theorem group {inner : Node} (holds : config.HoldsTogether table keeps inner) :
    config.HoldsTogether table keeps (.group inner) := by
  intro position chain
  rw [writtenAt]
  split
  next => exact holds position chain
  next => exact isGrouped_enclosed (.grouped holds.free)

end HoldsTogether

theorem holdsTogether (describes : table.Describes config) {keeps : Prop}
    {node : Node} (expression : node.IsExpression table)
    (written : ∀ part ∈ node.data, ∃ text, part.render config = .write text)
    (kept : keeps → node.KeepsQuotients) :
    config.HoldsTogether table keeps node := by
  -- Both are about every node of the tree, so they pass to the parts together.
  have sound : node.All fun inner =>
      (∀ part ∈ inner.ownData, ∃ text, part.render config = .write text) ∧
        (keeps → inner.mergesQuotient = false) := fun inner among =>
    ⟨fun part own => written part (List.mem_flatMap.mpr ⟨inner, among, own⟩),
      fun keep => kept keep inner among⟩
  clear written kept
  induction expression with
  | column table? name =>
      have own := (Node.All.column.mp sound).1
      exact .column (own _ (by simp [Node.ownData]))
  | literal value =>
      have own := (Node.All.literal.mp sound).1
      exact .literal fun apart =>
        own _ (by simp [Node.ownData, Part.isDatum, apart])
  | registered known left right leftHolds rightHolds =>
      obtain ⟨_, first, second⟩ := Node.All.binary.mp sound
      exact .registered describes left right (leftHolds first)
        (rightHolds second) known
  | @core kind operator _ _ named plain left right leftHolds rightHolds =>
      obtain ⟨⟨_, kept⟩, first, second⟩ := Node.All.binary.mp sound
      cases joins : operator.isConnective with
      | true =>
          exact .connective describes left right (leftHolds first)
            (rightHolds second) named plain joins
      | false =>
          exact .plain describes left right (leftHolds first)
            (rightHolds second) named plain joins kept
  | between operand low high holds lowHolds highHolds =>
      obtain ⟨_, own, bounds⟩ := Node.All.binary.mp sound
      obtain ⟨_, first, second⟩ := Node.All.binary.mp bounds
      exact .between describes operand (holds own) low high (lowHolds first)
        (highHolds second)
  | inList nonempty operand _ holds itemsHold =>
      obtain ⟨_, own, list⟩ := Node.All.binary.mp sound
      have items := (Node.All.list.mp (Node.All.group.mp list).2).2
      exact .member describes operand (holds own) false rfl nonempty
        fun item among => itemsHold item among (items item among)
  | notInList nonempty operand _ holds itemsHold =>
      obtain ⟨_, own, list⟩ := Node.All.binary.mp sound
      have items := (Node.All.list.mp (Node.All.group.mp list).2).2
      exact .member describes operand (holds own) true rfl nonempty
        fun item among => itemsHold item among (items item among)
  | negation _ holds => exact .negation (holds (Node.All.unary.mp sound).2)
  | call name _ holds =>
      have arguments := (Node.All.call.mp sound).2
      exact .call name fun argument among =>
        holds argument among (arguments argument among)
  | caseWhen nonempty _ _ _ conditions results otherwise =>
      obtain ⟨_, branches, last⟩ := Node.All.caseWhen.mp sound
      exact .caseWhen nonempty
        (fun branch among => conditions branch among (branches branch among).1)
        (fun branch among => results branch among (branches branch among).2)
        (fun result among => otherwise result among (last result among))
  | group _ holds => exact .group (holds (Node.All.group.mp sound).2)

/-- The term that an expression is written as holds together, and its products
are joined if the expression keeps its quotients. -/
theorem isGrouped_writtenAt (describes : table.Describes config)
    {keeps : Prop} {node : Node} (expression : node.IsExpression table)
    (written : ∀ part ∈ node.data, ∃ text, part.render config = .write text)
    (kept : keeps → node.KeepsQuotients) (position : Position)
    (chain : ∀ operator, position.continues operator →
      operator.isConnective) :
    (config.writtenAt position node).IsGrouped table
      (Term.IsJoined keeps) :=
  holdsTogether describes expression written kept position chain

/-! ## Parentheses do not change the normal form -/

section Normal

variable {joins : InfixOperator → InfixOperator → Bool}

theorem normal_enclosed {position : Position} {node : Node} {term : Term} :
    (position.enclosed node term).normal joins = term.normal joins := by
  unfold Position.enclosed
  split <;> rfl

theorem term_plain {kind : String} {operator : BinaryOperator}
    {left right : Node}
    (named : BinaryOperator.ofKind? kind = some operator)
    (plain : operator ∈ plainOperators) :
    config.term (.binary kind left right) =
      if operator.testsNull && right.isNull then
        .nullTest (operator = .notEq) (config.term left)
      else .infixed (.core operator) (config.term left) (config.term right) := by
  rw [term]
  simp only [named]
  cases operator with
  | between | inList | notInList => simp [plainOperators] at plain
  | _ => rfl

theorem term_member {kind : String} {operand : Node} {items : List Node}
    {negated : Bool}
    (named : BinaryOperator.ofKind? kind =
      some (if negated then .notInList else .inList)) :
    config.term (.binary kind operand (.group (.list items))) =
      .member negated (config.term operand) (config.termOfAll items) := by
  rw [term, named]
  cases negated <;> rfl

theorem normal_member {kind : String} {operand : Node} {items : List Node}
    {position : Position} (negated : Bool)
    (named : BinaryOperator.ofKind? kind =
      some (if negated then .notInList else .inList))
    (same : ∀ position, (config.writtenAt position operand).normal joins =
      (config.term operand).normal joins)
    (itemsSame : ∀ item ∈ items, (config.writtenAt .free item).normal joins =
      (config.term item).normal joins) :
    (config.writtenAt position
        (.binary kind operand (.group (.list items)))).normal joins =
      (config.term (.binary kind operand (.group (.list items)))).normal
        joins := by
  rw [writtenAt_member rfl named, normal_enclosed, term_member named]
  simpa [same, writtenOfAll_eq_map, termOfAll_eq_map] using itemsSame

theorem normal_writtenAt (describes : table.Describes config) {node : Node}
    (expression : node.IsExpression table) (position : Position) :
    (config.writtenAt position node).normal joins =
      (config.term node).normal joins := by
  induction expression generalizing position with
  | column | literal => exact normal_enclosed
  | @registered kind left right known _ _ leftSame rightSame =>
      obtain ⟨core, _⟩ :=
        describes.form _ (OperatorTable.token_registered known)
      have term : config.term (.binary kind left right) =
          .infixed (.registered kind) (config.term left)
            (config.term right) := by
        simp only [Config.term, core]
      rw [writtenAt_registered core, normal_enclosed, term]
      rw [Term.normal_infixed, Term.normal_infixed, leftSame, rightSame]
  | @core kind operator left right named plain _ _ leftSame rightSame =>
      rw [term_plain named plain]
      cases connective : operator.isConnective with
      | true =>
          have tests : operator.testsNull = false := by
            cases operator <;> first | rfl | cases connective
          rw [writtenAt_connective named connective, tests]
          split
          · simp [leftSame, rightSame]
          · simp [normal_enclosed, leftSame, rightSame]
      | false =>
          rw [writtenAt_plain named plain connective, normal_enclosed]
          split
          · simp [leftSame]
          · simp [leftSame, rightSame]
  | @between operand low high _ _ _ same lowSame highSame =>
      have written : config.writtenAt position
          (.binary "BETWEEN" operand (.binary "AND" low high)) =
            position.enclosed _ (.between _ _ _) := rfl
      have term : config.term
          (.binary "BETWEEN" operand (.binary "AND" low high)) =
            .between _ _ _ := rfl
      rw [written, normal_enclosed, term]
      simp [same, lowSame, highSame]
  | inList _ _ _ same itemsSame =>
      exact normal_member false rfl same fun item among =>
        itemsSame item among .free
  | notInList _ _ _ same itemsSame =>
      exact normal_member true rfl same fun item among =>
        itemsSame item among .free
  | negation _ same =>
      rw [writtenAt, normal_enclosed, term]
      simp [same]
  | call name _ same =>
      rw [writtenAt, normal_enclosed, term]
      simp [writtenOfAll_eq_map, termOfAll_eq_map]
      exact fun argument member => same argument member .free
  | @caseWhen branches otherwise? _ _ _ _ conditions results last =>
      rw [writtenAt, normal_enclosed, term]
      simp [writtenOfBranches_eq_map, termOfBranches_eq_map,
        writtenOfElse_eq_map, termOfElse_eq_map]
      constructor
      · intro condition result member
        exact ⟨conditions _ member .free, results _ member .free⟩
      · cases otherwise? with
        | none => rfl
        | some result => exact congrArg some (last result rfl .free)
  | group _ same =>
      rw [writtenAt, term, Term.normal_grouped]
      split
      · exact same position
      · rw [normal_enclosed, Term.normal_grouped]
        exact same .free

end Normal

end Config

end SqlExpr
