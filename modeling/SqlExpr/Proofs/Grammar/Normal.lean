import SqlExpr.Proofs.Grammar.Term

/-!
# Reading and normal forms

A term and what is read from its tokens have one normal form, as long as every
operator on the right of another one of its rank can be joined with it.  Among
the operators that are written without parentheses there, only a product may
begin with a quotient that it cannot be joined with.
-/

namespace SqlExpr.Grammar

namespace InfixOperator

/-- Chains of conditions are the same however they are put together. -/
def isChained : InfixOperator → InfixOperator → Bool
  | .core .and, .core .and | .core .or, .core .or => true
  | _, _ => false

/-- So are sums, differences behind a plus, and products. -/
def isRegrouped : InfixOperator → InfixOperator → Bool
  | .core .plus, .core .plus | .core .plus, .core .minus
  | .core .multiply, .core .multiply => true
  | first, second => isChained first second

private theorem eq_of_isRegrouped {first second : InfixOperator}
    (joined : isRegrouped first second) :
    first = second ∨ first = .core .plus ∧ second = .core .minus := by
  unfold isRegrouped isChained at joined
  split at joined
  · exact .inl rfl
  · exact .inr ⟨rfl, rfl⟩
  · exact .inl rfl
  · split at joined
    · exact .inl rfl
    · exact .inl rfl
    · cases joined

theorem isRegrouped_trans (first second third : InfixOperator)
    (left : isRegrouped first second) (right : isRegrouped second third) :
    isRegrouped first third := by
  obtain rfl | ⟨rfl, rfl⟩ := eq_of_isRegrouped left
  · exact right
  · obtain rfl | ⟨minus, _⟩ := eq_of_isRegrouped right
    · exact left
    · cases minus

def isAssociative : InfixOperator → Bool
  | core operator => operator.isAssociative
  | registered _ => false

end InfixOperator

namespace Term

def beginsWithQuotient : Term → Bool
  | infixed (.core .divide) _ _ => true
  | infixed (.core .multiply) left _ => left.beginsWithQuotient
  | _ => false

/-- An operand that is written without parentheses on the right of an operator
of its own rank; if `keeps` holds, it can be joined with the operator. -/
def IsJoined (keeps : Prop) (operator : InfixOperator) (right : Term) : Prop :=
  IsTight operator right ∨
    operator.isAssociative ∧ (∃ first second, right = .infixed operator first second) ∧
      (keeps → operator = .core .multiply → right.beginsWithQuotient = false)

theorem IsJoined.isReadable {keeps : Prop} {operator : InfixOperator}
    {right : Term} (joined : IsJoined keeps operator right) :
    IsReadable operator right := by
  obtain tight | ⟨associative, ⟨first, second, rfl⟩, _⟩ := joined
  · exact .inl tight
  · refine .inr ⟨?_, rfl⟩
    obtain operator | kind := operator
    · cases operator <;> first | rfl | cases associative
    · cases associative

section Graft

variable {joins : InfixOperator → InfixOperator → Bool}
  {operator other : InfixOperator}

/-- Operands that are joined can be put together in any order. -/
theorem graft_assoc
    (transitive : ∀ first second third, joins first second →
      joins second third → joins first third)
    (joined : joins operator other) (first second third : Term) :
    graft joins other (graft joins operator first second) third =
      graft joins operator first (graft joins other second third) := by
  fun_induction graft joins other second third with
  | case1 next left right further induction =>
      rw [graft, if_pos further, graft, if_pos (transitive _ _ _ joined further),
        induction]
  | case2 next left right apart =>
      rw [graft, if_neg apart, graft, if_pos joined]
  | case3 third atomic =>
      have alone (operator : InfixOperator) (left : Term) :
          graft joins operator left third = .infixed operator left third := by
        rw [graft]
        exact atomic
      rw [alone, graft, if_pos joined]

/-- All operators on the left of a term that share the operator's rank can be
joined with it. -/
def IsJoinedAlong (joins : InfixOperator → InfixOperator → Bool)
    (operator : InfixOperator) : Term → Prop
  | infixed other first _ =>
    operator.rank = other.rank →
      joins operator other ∧ IsJoinedAlong joins operator first
  | _ => True

/-- The operands that a reader moves to the left are moved in the normal form
as well. -/
theorem normal_graft
    (transitive : ∀ first second third, joins first second →
      joins second third → joins first third)
    {left right : Term} (along : IsJoinedAlong joins operator right) :
    (graft sharesRank operator left right).normal joins =
      graft joins operator (left.normal joins) (right.normal joins) := by
  fun_induction graft sharesRank operator left right with
  | case1 other first second same induction =>
      obtain ⟨joined, further⟩ := along (by simpa [sharesRank] using same)
      have inner := induction further
      unfold normal at inner ⊢
      rw [regroup, regroup, inner, graft_assoc transitive joined]
  | case2 | case3 => rfl

theorem sharesRank_trans (first second third : InfixOperator)
    (left : sharesRank first second)
    (right : sharesRank second third) : sharesRank first third := by
  simp only [sharesRank, decide_eq_true_eq] at left right ⊢
  exact left.trans right

end Graft

/-! ## Products that begin with a quotient -/

section Quotients

variable {operator : InfixOperator} {left right : Term}

theorem rank_of_beginsWithQuotient (begins : right.beginsWithQuotient) :
    right.rank = Precedence.multiplicative.rank := by
  unfold beginsWithQuotient at begins
  split at begins
  · rfl
  · rfl
  · cases begins

/-- An associative operator can be joined with the operators that share its
rank, except that a product is not joined with a quotient. -/
theorem isRegrouped_of_rank {other : InfixOperator}
    (associative : operator.isAssociative)
    (same : operator.rank = other.rank) :
    operator.isRegrouped other ∨
      operator = .core .multiply ∧ other = .core .divide := by
  cases operator with
  | registered kind => cases associative
  | core operator =>
      cases other with
      | registered kind =>
          cases operator <;> first | (cases associative; done) | cases same
      | core other =>
          cases operator <;>
            first
            | (cases associative; done)
            | cases other <;>
                first
                | exact .inl rfl
                | exact .inr ⟨rfl, rfl⟩
                | cases same

theorem isJoinedAlong_of_isAssociative (associative : operator.isAssociative)
    (begins : operator = .core .multiply → right.beginsWithQuotient = false) :
    IsJoinedAlong InfixOperator.isRegrouped operator right := by
  fun_induction IsJoinedAlong InfixOperator.isRegrouped operator right with
  | case1 other first second induction =>
      intro same
      obtain joined | ⟨product, rfl⟩ := isRegrouped_of_rank associative same
      · refine ⟨joined, induction fun product => ?_⟩
        subst product
        obtain rfl | ⟨sum, _⟩ := InfixOperator.eq_of_isRegrouped joined
        · exact begins rfl
        · cases sum
      · cases begins product
  | case2 => trivial

theorem isJoinedAlong_of_isTight
    {joins : InfixOperator → InfixOperator → Bool}
    (tight : IsTight operator right) : IsJoinedAlong joins operator right := by
  cases right with
  | infixed other first second =>
      exact fun same => absurd same (Nat.ne_of_lt tight)
  | _ => trivial

theorem graft_of_rank_ne (apart : operator.rank ≠ right.rank) :
    graft sharesRank operator left right = .infixed operator left right := by
  cases right with
  | infixed other first second =>
      have different : sharesRank operator other = false :=
        decide_eq_false apart
      simp [graft, different]
  | _ => rfl

theorem graft_of_isTight (tight : IsTight operator right) :
    graft sharesRank operator left right = .infixed operator left right :=
  graft_of_rank_ne (Nat.ne_of_lt tight)

theorem beginsWithQuotient_graft :
    (graft sharesRank (.core .multiply) left right).beginsWithQuotient =
      (left.beginsWithQuotient || right.beginsWithQuotient) := by
  have apart {term : Term}
      (rank : term.rank ≠ Precedence.multiplicative.rank) :
      term.beginsWithQuotient = false := by
    rw [Bool.eq_false_iff]
    exact fun begins => rank (rank_of_beginsWithQuotient begins)
  fun_induction graft sharesRank (.core .multiply) left right with
  | case1 other first second same induction =>
      have ranks : (InfixOperator.core .multiply).rank = other.rank := by
        simpa [sharesRank] using same
      obtain joined | ⟨_, rfl⟩ := isRegrouped_of_rank rfl ranks
      · obtain rfl | ⟨product, _⟩ := InfixOperator.eq_of_isRegrouped joined
        · simp [beginsWithQuotient, induction]
        · cases product
      · simp [beginsWithQuotient]
  | case2 other first second different =>
      have ranks : (infixed other first second).rank ≠
          Precedence.multiplicative.rank := by
        intro equal
        apply different
        exact decide_eq_true equal.symm
      simp [beginsWithQuotient, apart ranks]
  | case3 right atomic =>
      have none : right.beginsWithQuotient = false := by
        cases right with
        | infixed other first second => exact (atomic _ _ _ rfl).elim
        | _ => rfl
      simp [beginsWithQuotient, none]

theorem beginsWithQuotient_reading {table : OperatorTable} {term : Term}
    (grouped : term.IsGrouped table (IsJoined True)) :
    term.reading.beginsWithQuotient = term.beginsWithQuotient := by
  induction grouped with
  | @infixed operator left right _ _ joined _ _ leftSame rightSame =>
      change (graft sharesRank operator left.reading
        right.reading).beginsWithQuotient = _
      by_cases ranks :
          (InfixOperator.core .multiply).rank = operator.rank
      · have tight (tight : IsTight operator right) :
            IsTight operator right.reading ∧
              right.beginsWithQuotient = false := by
          refine ⟨by rwa [IsTight, rank_reading], ?_⟩
          rw [Bool.eq_false_iff]
          intro begins
          rw [IsTight, ← ranks, rank_of_beginsWithQuotient begins] at tight
          exact absurd tight (Nat.lt_irrefl _)
        obtain same | ⟨_, rfl⟩ := isRegrouped_of_rank rfl ranks
        · obtain rfl | ⟨sum, _⟩ := InfixOperator.eq_of_isRegrouped same
          · have none : right.beginsWithQuotient = false := by
              obtain isTight | ⟨_, _, keeps⟩ := joined
              · exact (tight isTight).2
              · exact keeps trivial rfl
            rw [beginsWithQuotient_graft, leftSame, rightSame, none,
              Bool.or_false, beginsWithQuotient]
          · cases sum
        · obtain isTight | ⟨associative, _⟩ := joined
          · rw [graft_of_isTight (tight isTight).1]
            rfl
          · cases associative
      · have apart {term : Term} (rank : term.rank = operator.rank) :
            term.beginsWithQuotient = false := by
          rw [Bool.eq_false_iff]
          intro begins
          exact ranks ((rank_of_beginsWithQuotient begins).symm.trans rank)
        rw [apart rank_graft, apart rfl]
  | _ => rfl

end Quotients

/-- What is read from the tokens of a term has the term's normal form. -/
theorem normal_reading {table : OperatorTable} {term : Term}
    (grouped : term.IsGrouped table (IsJoined True)) :
    term.reading.normal InfixOperator.isRegrouped =
      term.normal InfixOperator.isRegrouped := by
  induction grouped with
  | literal | reference => rfl
  | @infixed operator left right _ _ joined _ rightGrouped first second =>
      have along : IsJoinedAlong InfixOperator.isRegrouped operator
          right.reading := by
        obtain tight | ⟨associative, _, keeps⟩ := joined
        · apply isJoinedAlong_of_isTight
          rwa [IsTight, rank_reading]
        · refine isJoinedAlong_of_isAssociative associative fun product => ?_
          rw [beginsWithQuotient_reading rightGrouped]
          exact keeps trivial product
      change (graft sharesRank operator left.reading
        right.reading).normal _ = _
      rw [normal_graft InfixOperator.isRegrouped_trans along, first, second]
      rfl
  | nullTest _ _ operand => exact congrArg (nullTest _) operand
  | between _ _ _ _ _ _ operand low high =>
      simp only [reading, normal, regroup] at operand low high ⊢
      rw [operand, low, high]
  | member _ _ _ _ operand items =>
      simp only [reading, normal, regroup, regroupAll_eq_map, List.map_map]
        at operand items ⊢
      rw [operand]
      exact congrArg _ (List.map_congr_left items)
  | negation _ _ operand => exact congrArg negation operand
  | call name _ arguments =>
      simp only [reading, normal, regroup, regroupAll_eq_map, List.map_map]
        at arguments ⊢
      exact congrArg _ (List.map_congr_left arguments)
  | @caseWhen branches otherwise? _ _ _ _ conditions results last =>
      simp only [reading, normal, regroup, regroupBranches_eq_map,
        regroupElse_eq_map, List.map_map] at conditions results last ⊢
      congr 1
      · exact List.map_congr_left fun branch member =>
          Prod.ext (conditions branch member) (results branch member)
      · cases otherwise? with
        | none => rfl
        | some result => exact congrArg some (last result rfl)
  | grouped _ inner => exact inner

end Term

end SqlExpr.Grammar
