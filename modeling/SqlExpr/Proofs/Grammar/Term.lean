import SqlExpr.Proofs.Grammar.Table
import SqlExpr.Proofs.Output.Atom

/-!
# Terms

A term is what a reader of tokens makes of them: its atoms are the tokens of a
value or a column, and parentheses are nodes of their own.  `regroup` moves the
operands of neighbouring operators to the left.  It gives both the tree that a
reader with left associative operators sees, and the normal form in which two
terms are compared.
-/

namespace SqlExpr

theorem Precedence.rank_injective {first second : Precedence}
    (same : first.rank = second.rank) : first = second := by
  cases first <;> cases second <;> first | rfl | cases same

theorem Precedence.rank_le (precedence : Precedence) :
    precedence.rank ≤ multiplicative.rank := by
  cases precedence <;> decide

namespace Grammar

open SqlExpr.Lexis

/-- An expression with its parentheses. -/
inductive Term where
  /-- A value or a column. -/
  | atom (tokens : List Token)
  | infixed (operator : InfixOperator) (left right : Term)
  /-- `x IS NULL` or `x IS NOT NULL` -/
  | nullTest (negated : Bool) (operand : Term)
  | between (operand low high : Term)
  /-- `x IN (a, b, …)` or `x NOT IN (a, b, …)` -/
  | member (negated : Bool) (operand : Term) (items : List Term)
  | negation (operand : Term)
  | call (name : String) (arguments : List Term)
  | caseWhen (branches : List (Term × Term)) (otherwise? : Option Term)
  /-- A term in parentheses. -/
  | grouped (inner : Term)

namespace Term

def rank : Term → Nat
  | infixed operator _ _ => operator.rank
  | nullTest .. => Precedence.comparison.rank
  | between .. | member .. => Precedence.range.rank
  | negation _ => Precedence.not.rank
  | _ => Precedence.multiplicative.rank + 1

/-- Whether an operator of the precedence can have the term on its left. -/
def isTakenBy (precedence : Precedence) (left : Term) : Bool :=
  precedence.rank < left.rank ||
    (precedence.rank = left.rank && precedence.isChainable)

section Tokens

variable (table : OperatorTable)

mutual

/-- The tokens that a term is written with. -/
def tokens : Term → List Token
  | .atom tokens => tokens
  | .infixed operator left right =>
    left.tokens ++ ((Link.infixed operator).tokens table ++ right.tokens)
  | .nullTest negated operand =>
    operand.tokens ++ (Link.nullTest negated).tokens table
  | .between operand low high =>
    operand.tokens ++ (Link.between.tokens table ++
      (low.tokens ++ .word "AND" :: high.tokens))
  | .member negated operand items =>
    operand.tokens ++ ((Link.member negated).tokens table ++
      ([.mark ','].intercalate (tokensOfAll items) ++ [.mark ')']))
  | .negation operand => .word "NOT" :: operand.tokens
  | .call name arguments =>
    .word name :: .call ::
      ([.mark ','].intercalate (tokensOfAll arguments) ++ [.mark ')'])
  | .caseWhen branches otherwise? =>
    .word "CASE" :: (tokensOfBranches branches ++
      (tokensOfElse otherwise? ++ [.word "END"]))
  | .grouped inner => .mark '(' :: (inner.tokens ++ [.mark ')'])

def tokensOfAll : List Term → List (List Token)
  | [] => []
  | term :: terms => term.tokens :: tokensOfAll terms

def tokensOfBranches : List (Term × Term) → List Token
  | [] => []
  | (condition, result) :: branches =>
    .word "WHEN" :: (condition.tokens ++
      .word "THEN" :: (result.tokens ++ tokensOfBranches branches))

def tokensOfElse : Option Term → List Token
  | none => []
  | some result => .word "ELSE" :: result.tokens

end

end Tokens

/-- Put an operand and an operator before a term.  The operand moves to the
left of the term's operators as long as the operator merges with them. -/
def graft (merges : InfixOperator → InfixOperator → Bool)
    (operator : InfixOperator) (left : Term) : Term → Term
  | .infixed other first second =>
    if merges operator other then
      .infixed other (graft merges operator left first) second
    else .infixed operator left (.infixed other first second)
  | right => .infixed operator left right

section Regroup

variable (merges : InfixOperator → InfixOperator → Bool) (wrap : Term → Term)

mutual

/-- Graft every operand on the right of an operator. -/
def regroup : Term → Term
  | .atom tokens => .atom tokens
  | .infixed operator left right =>
    graft merges operator left.regroup right.regroup
  | .nullTest negated operand => .nullTest negated operand.regroup
  | .between operand low high =>
    .between operand.regroup low.regroup high.regroup
  | .member negated operand items =>
    .member negated operand.regroup (regroupAll items)
  | .negation operand => .negation operand.regroup
  | .call name arguments => .call name (regroupAll arguments)
  | .caseWhen branches otherwise? =>
    .caseWhen (regroupBranches branches) (regroupElse otherwise?)
  | .grouped inner => wrap inner.regroup

def regroupAll : List Term → List Term
  | [] => []
  | term :: terms => term.regroup :: regroupAll terms

def regroupBranches : List (Term × Term) → List (Term × Term)
  | [] => []
  | (condition, result) :: branches =>
    (condition.regroup, result.regroup) :: regroupBranches branches

def regroupElse : Option Term → Option Term
  | none => none
  | some result => some result.regroup

end

end Regroup

/-- Operators of one rank are read from left to right. -/
def sharesRank (first second : InfixOperator) : Bool :=
  first.rank = second.rank

/-- The term as it is read from its tokens. -/
def reading (term : Term) : Term := term.regroup sharesRank .grouped

/-- A normal form of terms.  Parentheses are dropped, and operands are moved to
the left of operators that the given ones join. -/
def normal (joins : InfixOperator → InfixOperator → Bool) (term : Term) :
    Term :=
  term.regroup joins id

/-- The operands of a term hold together where they stand without parentheses,
and `right` allows the operands on the right of its operators. -/
inductive IsGrouped (table : OperatorTable)
    (right : InfixOperator → Term → Prop) : Term → Prop where
  | literal {tokens : List Token} (literal : IsLiteral tokens) :
      IsGrouped table right (.atom tokens)
  | reference {tokens : List Token} (reference : IsReference tokens) :
      IsGrouped table right (.atom tokens)
  | infixed {operator : InfixOperator} {first second : Term}
      (known : table.Knows operator)
      (taken : first.isTakenBy operator.precedence)
      (allowed : right operator second)
      (firstGrouped : IsGrouped table right first)
      (secondGrouped : IsGrouped table right second) :
      IsGrouped table right (.infixed operator first second)
  | nullTest {negated : Bool} {operand : Term}
      (taken : operand.isTakenBy .comparison)
      (grouped : IsGrouped table right operand) :
      IsGrouped table right (.nullTest negated operand)
  | between {operand low high : Term}
      (taken : operand.isTakenBy .range)
      (lowTight : Precedence.range.rank < low.rank)
      (highTight : Precedence.range.rank < high.rank)
      (grouped : IsGrouped table right operand)
      (lowGrouped : IsGrouped table right low)
      (highGrouped : IsGrouped table right high) :
      IsGrouped table right (.between operand low high)
  | member {negated : Bool} {operand : Term} {items : List Term}
      (taken : operand.isTakenBy .range)
      (nonempty : items ≠ [])
      (grouped : IsGrouped table right operand)
      (itemsGrouped : ∀ item ∈ items, IsGrouped table right item) :
      IsGrouped table right (.member negated operand items)
  | negation {operand : Term}
      (tight : Precedence.not.rank ≤ operand.rank)
      (grouped : IsGrouped table right operand) :
      IsGrouped table right (.negation operand)
  | call (name : String) {arguments : List Term}
      (grouped : ∀ argument ∈ arguments, IsGrouped table right argument) :
      IsGrouped table right (.call name arguments)
  | caseWhen {branches : List (Term × Term)} {otherwise? : Option Term}
      (nonempty : branches ≠ [])
      (conditions : ∀ branch ∈ branches, IsGrouped table right branch.1)
      (results : ∀ branch ∈ branches, IsGrouped table right branch.2)
      (otherwise : ∀ result ∈ otherwise?, IsGrouped table right result) :
      IsGrouped table right (.caseWhen branches otherwise?)
  | grouped {inner : Term} (grouped : IsGrouped table right inner) :
      IsGrouped table right (.grouped inner)

/-- An operand that cannot be split by the operator before it. -/
def IsTight (operator : InfixOperator) (right : Term) : Prop :=
  operator.rank < right.rank

/-- An operand that is read from left to right together with the operator
before it. -/
def IsReadable (operator : InfixOperator) (right : Term) : Prop :=
  IsTight operator right ∨
    operator.precedence.isChainable ∧ operator.rank = right.rank

section Lists

variable {merges : InfixOperator → InfixOperator → Bool} {wrap : Term → Term}

@[simp] theorem regroupAll_eq_map (terms : List Term) :
    regroupAll merges wrap terms = terms.map (regroup merges wrap) := by
  induction terms with
  | nil => rfl
  | cons term terms induction => simp [regroupAll, induction]

@[simp] theorem regroupBranches_eq_map (branches : List (Term × Term)) :
    regroupBranches merges wrap branches =
      branches.map fun branch =>
        (branch.1.regroup merges wrap, branch.2.regroup merges wrap) := by
  induction branches with
  | nil => rfl
  | cons branch branches induction => simp [regroupBranches, induction]

@[simp] theorem regroupElse_eq_map (otherwise? : Option Term) :
    regroupElse merges wrap otherwise? =
      otherwise?.map (regroup merges wrap) := by
  cases otherwise? <;> rfl

end Lists

section Normal

variable {joins : InfixOperator → InfixOperator → Bool}

@[simp] theorem normal_infixed {operator : InfixOperator} {left right : Term} :
    (infixed operator left right).normal joins =
      graft joins operator (left.normal joins) (right.normal joins) := rfl

@[simp] theorem normal_nullTest {negated : Bool} {operand : Term} :
    (nullTest negated operand).normal joins =
      nullTest negated (operand.normal joins) := rfl

@[simp] theorem normal_between {operand low high : Term} :
    (between operand low high).normal joins =
      between (operand.normal joins) (low.normal joins)
        (high.normal joins) := rfl

@[simp] theorem normal_member {negated : Bool} {operand : Term}
    {items : List Term} :
    (member negated operand items).normal joins =
      member negated (operand.normal joins) (items.map (normal joins)) := by
  simp [normal, regroup]

@[simp] theorem normal_negation {operand : Term} :
    (negation operand).normal joins = negation (operand.normal joins) := rfl

@[simp] theorem normal_call {name : String} {arguments : List Term} :
    (call name arguments).normal joins =
      call name (arguments.map (normal joins)) := by
  simp [normal, regroup]

@[simp] theorem normal_caseWhen {branches : List (Term × Term)}
    {otherwise? : Option Term} :
    (caseWhen branches otherwise?).normal joins =
      caseWhen
        (branches.map fun branch =>
          (branch.1.normal joins, branch.2.normal joins))
        (otherwise?.map (normal joins)) := by
  simp [normal, regroup]
  rfl

@[simp] theorem normal_grouped {inner : Term} :
    (grouped inner).normal joins = inner.normal joins := rfl

end Normal

/-! ## Reading does not change the tokens -/

section Tokens

variable {table : OperatorTable}

@[simp] theorem tokensOfAll_eq_map (terms : List Term) :
    tokensOfAll table terms = terms.map (tokens table) := by
  induction terms with
  | nil => rfl
  | cons term terms induction => simp [tokensOfAll, induction]

theorem tokens_graft (merges : InfixOperator → InfixOperator → Bool)
    (operator : InfixOperator) (left right : Term) :
    (graft merges operator left right).tokens table =
      (Term.infixed operator left right).tokens table := by
  fun_induction graft merges operator left right with
  | case1 other first second _ induction => simp [tokens, induction]
  | case2 | case3 => rfl

private theorem tokensOfBranches_regroup {merges} {wrap : Term → Term}
    {branches : List (Term × Term)}
    (conditions : ∀ branch ∈ branches,
      (branch.1.regroup merges wrap).tokens table = branch.1.tokens table)
    (results : ∀ branch ∈ branches,
      (branch.2.regroup merges wrap).tokens table = branch.2.tokens table) :
    tokensOfBranches table (regroupBranches merges wrap branches) =
      tokensOfBranches table branches := by
  induction branches with
  | nil => rfl
  | cons branch branches induction =>
      rw [List.forall_mem_cons] at conditions results
      simp only [regroupBranches, tokensOfBranches, conditions.1, results.1,
        induction conditions.2 results.2]

theorem tokens_reading {right : InfixOperator → Term → Prop} {term : Term}
    (grouped : term.IsGrouped table right) :
    term.reading.tokens table = term.tokens table := by
  unfold reading
  induction grouped with
  | literal | reference => rfl
  | infixed _ _ _ _ _ first second =>
      simp only [regroup, tokens_graft, tokens, first, second]
  | nullTest _ _ operand => simp only [regroup, tokens, operand]
  | between _ _ _ _ _ _ operand low high =>
      simp only [regroup, tokens, operand, low, high]
  | member _ _ _ _ operand items =>
      have same := List.map_congr_left items
      simp only [regroup, tokens, operand, regroupAll_eq_map,
        tokensOfAll_eq_map, List.map_map, Function.comp_def, same]
  | negation _ _ operand => simp only [regroup, tokens, operand]
  | call name _ arguments =>
      have same := List.map_congr_left arguments
      simp only [regroup, tokens, regroupAll_eq_map, tokensOfAll_eq_map,
        List.map_map, Function.comp_def, same]
  | @caseWhen branches otherwise? _ _ _ _ conditions results last =>
      have tail : tokensOfElse table
          (regroupElse sharesRank .grouped otherwise?) =
            tokensOfElse table otherwise? := by
        cases otherwise? with
        | none => rfl
        | some result => simp only [regroupElse, tokensOfElse, last result rfl]
      simp only [regroup, tokens, tail,
        tokensOfBranches_regroup conditions results]
  | grouped _ inner => simp only [regroup, tokens, inner]

end Tokens

def beginsTerm : Token → Bool
  | .number _ | .text _ | .name _ | .word _ | .operator _ | .mark '(' => true
  | _ => false

theorem IsGrouped.exists_first {right : InfixOperator → Term → Prop}
    {term : Term} (grouped : term.IsGrouped table right) :
    ∃ first more, term.tokens table = first :: more ∧ beginsTerm first := by
  induction grouped with
  | literal literal =>
      cases literal <;> exact ⟨_, _, rfl, rfl⟩
  | reference reference =>
      cases reference <;> exact ⟨_, _, rfl, rfl⟩
  | infixed _ _ _ _ _ operand _ | nullTest _ _ operand
  | between _ _ _ _ _ _ operand _ _ | member _ _ _ _ operand _ =>
      obtain ⟨first, more, begin, begins⟩ := operand
      simp [tokens, begin, begins]
  | negation | call | caseWhen | grouped => exact ⟨_, _, rfl, rfl⟩

theorem IsGrouped.head?_ne {right : InfixOperator → Term → Prop} {term : Term}
    (grouped : term.IsGrouped table right) {token : Token}
    (other : beginsTerm token = false) (rest : List Token) :
    (term.tokens table ++ rest).head? ≠ some token := by
  obtain ⟨first, more, begin, begins⟩ := grouped.exists_first
  rw [begin]
  rintro ⟨⟩
  simp [other] at begins

/-! ## What is read is grouped -/

section Grouped

variable {table : OperatorTable} {operator : InfixOperator} {left right : Term}

theorem rank_graft :
    (graft sharesRank operator left right).rank = operator.rank := by
  cases right with
  | infixed other first second =>
      rw [graft]
      split
      next same => simpa [sharesRank, rank, eq_comm] using same
      next => rfl
  | _ => rfl

theorem isTakenBy_iff {precedence : Precedence} :
    left.isTakenBy precedence ↔ precedence.rank < left.rank ∨
      precedence.isChainable ∧ precedence.rank = left.rank := by
  simp only [isTakenBy, Bool.or_eq_true, Bool.and_eq_true, decide_eq_true_eq,
    and_comm]

theorem rank_le_of_isTakenBy {precedence : Precedence}
    (taken : left.isTakenBy precedence) : precedence.rank ≤ left.rank := by
  rcases isTakenBy_iff.mp taken with less | ⟨_, same⟩
  · exact Nat.le_of_lt less
  · exact Nat.le_of_eq same

/-- Between terms that are not put together by an operator there is none that
has the same rank and can follow them. -/
theorem exists_eq_infixed (chainable : operator.precedence.isChainable)
    (same : operator.rank = left.rank) :
    ∃ other first second, left = .infixed other first second := by
  cases left with
  | infixed other first second => exact ⟨other, first, second, rfl⟩
  | _ =>
      exfalso
      cases operator with
      | core operator =>
          cases operator <;>
            first
            | (cases same; done)
            | cases chainable
      | registered kind => cases same

theorem IsGrouped.graft (known : table.Knows operator)
    (taken : left.isTakenBy operator.precedence)
    (readable : IsReadable operator right)
    (leftGrouped : left.IsGrouped table IsTight)
    (rightGrouped : right.IsGrouped table IsTight) :
    (graft sharesRank operator left right).IsGrouped table IsTight := by
  fun_induction Term.graft sharesRank operator left right with
  | case1 other first second same induction =>
      have ranks : operator.rank = other.rank := by
        simpa [sharesRank] using same
      have precedences : operator.precedence = other.precedence :=
        Precedence.rank_injective ranks
      obtain tight | ⟨chainable, _⟩ := readable
      · exact absurd tight (by simp [IsTight, rank, ranks])
      · cases rightGrouped with
        | infixed otherKnown firstTaken tight firstGrouped secondGrouped =>
            refine .infixed otherKnown ?_ tight ?_ secondGrouped
            · rw [isTakenBy_iff, rank_graft, ← precedences]
              exact .inr ⟨chainable, rfl⟩
            · refine induction ?_ firstGrouped
              rw [← precedences] at firstTaken
              exact isTakenBy_iff.mp firstTaken
  | case2 other first second apart =>
      refine .infixed known taken (readable.resolve_right fun same => ?_)
        leftGrouped rightGrouped
      simp [sharesRank, rank] at apart same
      exact apart same.2
  | case3 right atomic =>
      refine .infixed known taken (readable.resolve_right fun same => ?_)
        leftGrouped rightGrouped
      obtain ⟨other, first, second, rfl⟩ := exists_eq_infixed same.1 same.2
      exact atomic other first second rfl

theorem rank_reading (term : Term) : term.reading.rank = term.rank := by
  cases term with
  | infixed operator left right => exact rank_graft
  | _ => rfl

theorem isGrouped_reading {allowed : InfixOperator → Term → Prop}
    (readable : ∀ operator right, allowed operator right →
      IsReadable operator right) {term : Term}
    (grouped : term.IsGrouped table allowed) :
    term.reading.IsGrouped table IsTight := by
  have ranks (term : Term) := rank_reading term
  unfold reading at ranks ⊢
  induction grouped with
  | literal literal => exact .literal literal
  | reference reference => exact .reference reference
  | infixed known taken right _ _ first second =>
      refine .graft known ?_ ?_ first second
      · simpa only [isTakenBy, ranks] using taken
      · simpa only [IsReadable, IsTight, ranks] using readable _ _ right
  | nullTest taken _ operand =>
      exact .nullTest (by simpa only [isTakenBy, ranks] using taken) operand
  | between taken lowTight highTight _ _ _ operand low high =>
      refine .between ?_ ?_ ?_ operand low high
      · simpa only [isTakenBy, ranks] using taken
      · rwa [ranks]
      · rwa [ranks]
  | member taken nonempty _ _ operand items =>
      simp only [regroup, regroupAll_eq_map]
      refine .member ?_ ?_ operand (List.forall_mem_map.mpr items)
      · simpa only [isTakenBy, ranks] using taken
      · simpa using nonempty
  | negation tight _ operand => exact .negation (by rwa [ranks]) operand
  | call name _ arguments =>
      simp only [regroup, regroupAll_eq_map]
      exact .call name (List.forall_mem_map.mpr arguments)
  | caseWhen nonempty _ _ _ conditions results otherwise =>
      simp only [regroup, regroupBranches_eq_map, regroupElse_eq_map]
      refine .caseWhen ?_ (List.forall_mem_map.mpr conditions)
        (List.forall_mem_map.mpr results) ?_
      · simpa using nonempty
      · simpa using otherwise
  | grouped _ inner => exact .grouped inner

end Grouped

end Term

end Grammar

end SqlExpr
