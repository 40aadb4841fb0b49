import SqlExpr.Proofs.Grammar.Infix

/-!
# Memberships as operands

A test whether a column is in a list is kept by every infix operator if the
list has an item.  An empty list has a comparison of numbers in its place, which
is written without parentheses wherever it stands; only the connectives bind
loosely enough to keep it.
-/

namespace SqlExpr

open SqlExpr.Grammar SqlExpr.Lexis

/-- The test whether a node is in a list, or whether it is not. -/
def Node.membership (negated : Bool) (node : Node) (items : List Node) :
    Node :=
  if negated then node.notInList items else node.inList items

namespace Config

variable {table : OperatorTable} {config : Config} {kind : String}
  {operator : InfixOperator} {text : String}

theorem isOperand_column (describes : table.Describes config)
    {table? : Option String} {name : String}
    (success : config.render (.column table? name) = .ok text) :
    config.IsOperand table (.column table? name) where
  whole position := by
    cases position with
    | chained other leads => cases other <;> rfl
    | _ => rfl
  present := rfl
  apart _ _ := rfl
  reads :=
    ⟨text, _, readsAs_of_isExpression describes (.column table? name) success,
      .ofFree rfl (Nat.lt_succ_self _)⟩

/-! ## Lists with items -/

/-- An operator of the range level is kept as an operand. -/
theorem isOperand_range (describes : table.Describes config)
    {own : BinaryOperator} {left right : Node}
    (named : BinaryOperator.ofKind? kind = some own)
    (range : own.precedence = .range)
    (expression : (Node.binary kind left right).IsExpression table)
    (rank : (config.writtenAt .free (.binary kind left right)).rank =
      Precedence.range.rank)
    (success : config.render (.binary kind left right) = .ok text) :
    config.IsOperand table (.binary kind left right) := by
  have notAssociative : own.isAssociative = false := by
    cases own <;> first | rfl | cases range
  have apart (other : BinaryOperator) (associative : other.isAssociative) :
      (Node.binary kind left right).isBinaryOf other = false := by
    simp only [Node.isBinaryOf, named, Option.some.injEq,
      decide_eq_false_iff_not]
    rintro rfl
    rw [notAssociative] at associative
    cases associative
  have bound : (Node.binary kind left right).binding? =
      some (.range, some own) := by
    simp only [Node.binding?, named, range]
  refine ⟨?_, rfl, apart, text, _,
    readsAs_of_isExpression describes expression success, ?_⟩
  · intro position
    cases position with
    | bounds => exact apart .and rfl
    | chained other leads => cases other <;> rfl
    | _ => rfl
  · refine .ofBound bound ((Term.rank_reading _).trans rank) ?_
    rintro other ⟨⟩ associative
    rw [notAssociative] at associative
    cases associative

theorem isOperand_membership (describes : table.Describes config)
    {node : Node} {items : List Node} (negated : Bool)
    (nonempty : items ≠ []) (expression : node.IsExpression table)
    (expressions : ∀ item ∈ items, item.IsExpression table)
    (success : config.render (.membership negated node items) = .ok text) :
    config.IsOperand table (.membership negated node items) := by
  cases negated with
  | false =>
      have shape : Node.membership false node items =
          .binary "IN" node (.group (.list items)) := by
        simp [Node.membership, Node.inList, nonempty]
      have named : BinaryOperator.ofKind? "IN" = some .inList := rfl
      rw [shape] at success ⊢
      exact isOperand_range describes named rfl
        (.inList nonempty expression expressions) rfl success
  | true =>
      have shape : Node.membership true node items =
          .binary "NOT IN" node (.group (.list items)) := by
        simp [Node.membership, Node.notInList, nonempty]
      have named : BinaryOperator.ofKind? "NOT IN" = some .notInList := rfl
      rw [shape] at success ⊢
      exact isOperand_range describes named rfl
        (.notInList nonempty expression expressions) rfl success

/-! ## Lists without items -/

/-- The comparison that is written for an empty list. -/
def emptyTest (negated : Bool) : Term :=
  .infixed (.core .eq) (.atom [.number "1"])
    (.atom [.number (if negated then "1" else "0")])

theorem knows_eq : table.Knows (.core .eq) := List.mem_cons_self

theorem readsAs_membership_nil (negated : Bool) (node : Node) :
    config.ReadsAs table (.membership negated node [])
      (if negated then "1=1" else "1=0") (emptyTest negated) where
  success := by cases negated <;> rfl
  reads := by cases negated <;> exact ⟨_, _, _, rfl, rfl, rfl⟩
  grouped := by
    have tight : Precedence.comparison.rank <
        Precedence.multiplicative.rank + 1 := by decide
    exact .infixed knows_eq rfl tight (.literal (.number _))
      (.literal (.number _))

theorem rank_number (digits : String) :
    Precedence.multiplicative.rank < (Term.atom [.number digits]).rank :=
  Nat.lt_succ_self _

theorem binding?_membership_nil (negated : Bool) (node : Node) :
    (Node.membership negated node []).binding? = none := by
  cases negated <;> rfl

theorem isWhole_membership_nil (negated : Bool) (node : Node) :
    IsWhole (.membership negated node []) := by
  intro position
  cases negated <;>
  · cases position with
    | chained other leads => cases other <;> rfl
    | _ => rfl

/-- An infix operator other than the connectives binds at least as tightly as
comparisons do. -/
theorem connective_or_le_rank (names : table.Names kind operator) :
    (operator = .core .and ∨ operator = .core .or) ∨
      Precedence.comparison.rank ≤ operator.rank := by
  cases names with
  | @core operator named plain =>
      cases operator <;>
        first
        | exact .inl (.inl rfl)
        | exact .inl (.inr rfl)
        | exact .inr (by decide)
        | simp [plainOperators] at plain
  | registered known =>
      have low : Precedence.comparison.rank ≤ Precedence.other.rank := by
        decide
      exact .inr low

section Empty

variable (describes : table.Describes config)
  (names : table.Names kind operator) (negated : Bool) (node : Node)
  {other : Node} (otherOperand : config.IsOperand table other)
  (unbound : other.binding? = none)
include describes names otherOperand unbound

/-- Before another operand, an empty list is kept by the connectives alone. -/
theorem keepsOperands_membership_nil_left :
    config.KeepsOperands table operator kind (.membership negated node [])
        other ↔
      operator = .core .and ∨ operator = .core .or := by
  obtain ⟨otherText, second, otherReads, otherBinds⟩ := otherOperand.reads
  have testReads : config.ReadsAs table (.membership negated node []) _ _ :=
    readsAs_membership_nil negated node
  have testUnbound := binding?_membership_nil negated node
  have testWhole := isWhole_membership_nil negated node
  have otherTight := otherBinds.free unbound
  constructor
  · rintro ⟨_, _, leftRead, rightRead, _, _, read, _, _⟩
    rcases connective_or_le_rank names with connective | ranks
    · exact connective
    · exfalso
      rw [read?_infixed describes names otherOperand.present testWhole
        otherOperand.whole testReads otherReads,
        enclosed_of_unbound testUnbound, enclosed_of_unbound unbound] at read
      exact OperatorTable.read?_loose_left describes.toIsDistinct
        knows_eq names.knows (rank_number _) (rank_number _) otherTight
        (.literal (.number _)) (.literal (.number _)) otherReads.grouped ranks
        rfl read
  · intro connective
    apply keepsOperands_of_isTight describes names otherOperand.present
      testWhole otherOperand.whole testReads otherReads
    · rw [enclosed_of_unbound testUnbound]
      rcases connective with rfl | rfl <;> rfl
    · rw [enclosed_of_unbound unbound]
      exact operator.precedence.rank_le.trans_lt otherTight

/-- Behind another operand, an empty list is kept by the connectives alone. -/
theorem keepsOperands_membership_nil_right :
    config.KeepsOperands table operator kind other
        (.membership negated node []) ↔
      operator = .core .and ∨ operator = .core .or := by
  obtain ⟨otherText, first, otherReads, otherBinds⟩ := otherOperand.reads
  have testReads : config.ReadsAs table (.membership negated node []) _ _ :=
    readsAs_membership_nil negated node
  have testUnbound := binding?_membership_nil negated node
  have testWhole := isWhole_membership_nil negated node
  have present : (Node.membership negated node []).isNull = false := by
    cases negated <;> rfl
  have otherTight := otherBinds.free unbound
  constructor
  · rintro ⟨_, _, leftRead, rightRead, _, _, read, _, _⟩
    rcases connective_or_le_rank names with connective | ranks
    · exact connective
    · exfalso
      rw [read?_infixed describes names present otherOperand.whole testWhole
        otherReads testReads, enclosed_of_unbound testUnbound,
        enclosed_of_unbound unbound] at read
      exact OperatorTable.read?_loose_right describes.toIsDistinct
        knows_eq names.knows otherTight (rank_number _) (rank_number _)
        otherReads.grouped (.literal (.number _)) (.literal (.number _)) ranks
        rfl read
  · intro connective
    apply keepsOperands_of_isTight describes names present
      otherOperand.whole testWhole otherReads testReads
    · rw [enclosed_of_unbound unbound]
      exact OperatorTable.isTakenBy_of_tight _ otherTight
    · have looser : Precedence.and.rank < Precedence.comparison.rank ∧
          Precedence.or.rank < Precedence.comparison.rank := by decide
      rw [enclosed_of_unbound testUnbound]
      rcases connective with rfl | rfl
      · exact looser.1
      · exact looser.2

end Empty

/-- A column's membership in a list of values is kept as an operand beside
another column exactly if there is a value in the list or the operator is a
connective. -/
theorem keepsOperands_membership_iff (describes : table.Describes config)
    (names : table.Names kind operator) (negated : Bool)
    {table? otherTable? : Option String} {name otherName otherText : String}
    (values : List Value)
    (success : config.render (.membership negated (.column table? name)
      (values.map .ofValue)) = .ok text)
    (otherSuccess : config.render (.column otherTable? otherName) =
      .ok otherText) :
    (config.KeepsOperands table operator kind
        (.membership negated (.column table? name) (values.map .ofValue))
        (.column otherTable? otherName) ↔
      values ≠ [] ∨ operator = .core .and ∨ operator = .core .or) ∧
    (config.KeepsOperands table operator kind (.column otherTable? otherName)
        (.membership negated (.column table? name) (values.map .ofValue)) ↔
      values ≠ [] ∨ operator = .core .and ∨ operator = .core .or) := by
  have column := isOperand_column describes otherSuccess
  by_cases nonempty : values = []
  · subst nonempty
    have left := keepsOperands_membership_nil_left describes names negated
      (.column table? name) column rfl
    have right := keepsOperands_membership_nil_right describes names negated
      (.column table? name) column rfl
    simp only [ne_eq, not_true_eq_false, false_or]
    exact ⟨left, right⟩
  · have test : config.IsOperand table (.membership negated
        (.column table? name) (values.map .ofValue)) := by
      apply isOperand_membership describes negated _ (.column table? name) _
        success
      · simpa using nonempty
      · rw [List.forall_mem_map]
        intro value _
        exact .literal value
    exact ⟨iff_of_true (keepsOperands_of_isOperand describes names test column)
        (.inl nonempty),
      iff_of_true (keepsOperands_of_isOperand describes names column test)
        (.inl nonempty)⟩

/-- With an empty list, a comparison of its test with a column is two
comparisons in a row. -/
theorem not_keepsOperands_of_empty_list :
    let test : Node := .membership false (.column (some "t") "x") []
    let other : Node := .column (some "t") "y"
    postgres.render (.binary "=" test other) = .ok "1=0 = \"t\".\"y\"" ∧
      ¬ postgres.KeepsOperands jsonAccessors (.core .eq) "=" test other ∧
      postgres.KeepsOperands jsonAccessors (.core .eq) "="
        (.membership false (.column (some "t") "x") [.int 1]) other := by
  intro test other
  have plain : BinaryOperator.eq ∈ plainOperators := List.mem_cons_self
  have names : jsonAccessors.Names "=" (.core .eq) := .core rfl plain
  have empty := keepsOperands_membership_iff jsonAccessors_describes names
    false [] (rfl : postgres.render test = .ok "1=0")
    (rfl : postgres.render other = .ok "\"t\".\"y\"")
  have single := keepsOperands_membership_iff jsonAccessors_describes names
    false [.int 1]
    (rfl : postgres.render (.membership false (.column (some "t") "x")
      [.int 1]) = .ok "\"t\".\"x\" IN (1)")
    (rfl : postgres.render other = .ok "\"t\".\"y\"")
  refine ⟨rfl, ?_, single.1.mpr (.inl (List.cons_ne_nil _ _))⟩
  intro kept
  obtain some | and | or := empty.1.mp kept
  · exact some rfl
  · cases and
  · cases or

end Config

end SqlExpr
