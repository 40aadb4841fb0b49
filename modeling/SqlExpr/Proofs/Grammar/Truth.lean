import Mathlib.Order.Lattice
import SqlExpr.Proofs.Grammar.Normal
import SqlExpr.Proofs.Grammar.Value

/-!
# The truth of terms

What a term says of a row, where columns hold values of ordered types or null.
A comparison with null is neither true nor false, and `AND` and `OR` pass this
on as SQL has it.  A chain says the same however its operands are put together.
-/

namespace SqlExpr

open SqlExpr.Grammar SqlExpr.Lexis

/-- What a condition is in SQL. -/
inductive Truth where
  | no
  | unknown
  | yes
  deriving DecidableEq, Repr

namespace Truth

def ofBool : Bool → Truth
  | true => yes
  | false => no

/-- Whether a value has a property, which is unknown of null. -/
def ofOption {α : Type} (property : α → Bool) : Option α → Truth
  | none => unknown
  | some value => ofBool (property value)

@[simp] theorem ofOption_some {α : Type} (property : α → Bool) (value : α) :
    ofOption property (some value) = ofBool (property value) := rfl

def and : Truth → Truth → Truth
  | no, _ => no
  | unknown, no => no
  | unknown, _ => unknown
  | yes, other => other

def or : Truth → Truth → Truth
  | yes, _ => yes
  | unknown, yes => yes
  | unknown, _ => unknown
  | no, other => other

theorem and_assoc (first second third : Truth) :
    (first.and second).and third = first.and (second.and third) := by
  cases first <;> cases second <;> cases third <;> rfl

theorem or_assoc (first second third : Truth) :
    (first.or second).or third = first.or (second.or third) := by
  cases first <;> cases second <;> cases third <;> rfl

@[simp] theorem ofBool_and (first second : Bool) :
    (ofBool first).and (ofBool second) = ofBool (first && second) := by
  cases first <;> cases second <;> rfl

@[simp] theorem ofBool_or (first second : Bool) :
    (ofBool first).or (ofBool second) = ofBool (first || second) := by
  cases first <;> cases second <;> rfl

@[simp] theorem ofBool_eq_yes_iff {value : Bool} :
    ofBool value = yes ↔ value = true := by
  cases value <;> simp [ofBool]

end Truth

/-- What a comparison says of a value or null and another value. -/
def BinaryOperator.truth? {α : Type} [LinearOrder α] (own : Option α)
    (other : α) : BinaryOperator → Option Truth
  | eq => some (.ofOption (· = other) own)
  | notEq => some (.ofOption (· ≠ other) own)
  | lt => some (.ofOption (· < other) own)
  | ltEq => some (.ofOption (· ≤ other) own)
  | gt => some (.ofOption (· > other) own)
  | gtEq => some (.ofOption (· ≥ other) own)
  | _ => none

namespace Grammar

/-- The types of columns: the values that a column can hold, and which of them
a literal means in a comparison with the column. -/
structure Schema where
  Carrier : List Token → Type
  order : ∀ column, LinearOrder (Carrier column)
  read? : ∀ column, List Token → Option (Carrier column)

attribute [instance] Schema.order

/-- What the columns hold in a row; `none` is null. -/
def Schema.Row (schema : Schema) : Type :=
  ∀ column, Option (schema.Carrier column)

/-- What a comparison of a column with a literal says of a row. -/
def Schema.Row.compare? {schema : Schema} (row : schema.Row)
    (operator : BinaryOperator) (column literal : List Token) :
    Option Truth := do
  let value ← schema.read? column literal
  operator.truth? (row column) value

theorem Schema.Row.compare?_of_read? {schema : Schema} {row : schema.Row}
    {operator : BinaryOperator} {column literal : List Token}
    {value : schema.Carrier column}
    (read : schema.read? column literal = some value) :
    row.compare? operator column literal =
      operator.truth? (row column) value := by
  unfold compare?
  rw [read]
  rfl

/-- Whether a column of a row holds no less than one literal and no more than
another. -/
def Schema.Row.within? {schema : Schema} (row : schema.Row)
    (column low high : List Token) : Option Truth := do
  return (← row.compare? .gtEq column low).and
    (← row.compare? .ltEq column high)

namespace Term

def column? : Term → Option (List Token)
  | .atom (.name content :: rest) => some (.name content :: rest)
  | .grouped inner => inner.column?
  | _ => none

def literal? : Term → Option (List Token)
  | .atom tokens => some tokens
  | .grouped inner => inner.literal?
  | _ => none

/-- What a condition says of a row. -/
def truth? {schema : Schema} (row : schema.Row) : Term → Option Truth
  | .infixed (.core .and) left right => do
    return (← left.truth? row).and (← right.truth? row)
  | .infixed (.core .or) left right => do
    return (← left.truth? row).or (← right.truth? row)
  | .infixed (.core operator) left right => do
    row.compare? operator (← left.column?) (← right.literal?)
  | .nullTest negated operand => do
    return .ofBool ((row (← operand.column?)).isSome = negated)
  | .between operand low high => do
    let column ← operand.column?
    return (← row.compare? .gtEq column (← low.literal?)).and
      (← row.compare? .ltEq column (← high.literal?))
  | .grouped inner => inner.truth? row
  | _ => none

section Normal

variable {schema : Schema} {row : schema.Row} {operator : InfixOperator}
  {left right : Term}

theorem exists_graft_eq_infixed
    (merges : InfixOperator → InfixOperator → Bool) :
    ∃ other first second,
      graft merges operator left right = .infixed other first second := by
  fun_cases graft merges operator left right <;> exact ⟨_, _, _, rfl⟩

theorem column?_normal (term : Term) :
    (term.normal InfixOperator.isRegrouped).column? = term.column? := by
  fun_induction column? term with
  | case1 => rfl
  | case2 inner same => exact same
  | case3 term notColumn notGrouped =>
      cases term with
      | atom tokens =>
          have same : (Term.atom tokens).normal InfixOperator.isRegrouped =
              .atom tokens := rfl
          rw [same, column?]
          · exact notColumn
          · exact notGrouped
      | infixed operator left right =>
          obtain ⟨other, first, second, same⟩ :=
            exists_graft_eq_infixed InfixOperator.isRegrouped
          rw [normal_infixed, same]
          rfl
      | grouped inner => exact absurd rfl (notGrouped inner)
      | _ => simp [column?]

theorem literal?_normal (term : Term) :
    (term.normal InfixOperator.isRegrouped).literal? = term.literal? := by
  fun_induction literal? term with
  | case1 => rfl
  | case2 inner same => exact same
  | case3 term notAtom notGrouped =>
      cases term with
      | atom tokens => exact absurd rfl (notAtom tokens)
      | infixed operator left right =>
          obtain ⟨other, first, second, same⟩ :=
            exists_graft_eq_infixed InfixOperator.isRegrouped
          rw [normal_infixed, same]
          rfl
      | grouped inner => exact absurd rfl (notGrouped inner)
      | _ => simp [literal?]

theorem truth?_arithmetic {operator : BinaryOperator}
    (arithmetic : operator.isArithmetic) :
    (infixed (.core operator) left right).truth? row = none := by
  cases operator <;> first | (cases arithmetic; done) | simp [truth?,
    Schema.Row.compare?, BinaryOperator.truth?]

/-- Chains of conditions can be put together in any order, and nothing is a
condition that is put together by other operators with this property. -/
theorem truth?_graft :
    (graft InfixOperator.isRegrouped operator left right).truth? row =
      (infixed operator left right).truth? row := by
  fun_induction graft InfixOperator.isRegrouped operator left right with
  | case1 other first second joined induction =>
      unfold InfixOperator.isRegrouped at joined
      split at joined
      · rw [truth?_arithmetic rfl, truth?_arithmetic rfl]
      · rw [truth?_arithmetic rfl, truth?_arithmetic rfl]
      · rw [truth?_arithmetic rfl, truth?_arithmetic rfl]
      · unfold InfixOperator.isChained at joined
        split at joined
        · simp only [truth?, induction, Truth.and_assoc, bind_assoc,
            pure_bind]
        · simp only [truth?, induction, Truth.or_assoc, bind_assoc,
            pure_bind]
        · cases joined
  | case2 | case3 => rfl

theorem truth?_normal (term : Term) :
    (term.normal InfixOperator.isRegrouped).truth? row = term.truth? row := by
  fun_induction truth? row term with
  | case1 left right first second =>
      rw [normal_infixed, truth?_graft]
      simp only [truth?, first, second]
  | case2 left right first second =>
      rw [normal_infixed, truth?_graft]
      simp only [truth?, first, second]
  | case3 operator left right notAnd notOr =>
      rw [normal_infixed, truth?_graft, truth?]
      · simp only [column?_normal, literal?_normal]
      · exact notAnd
      · exact notOr
  | case4 negated operand =>
      simp only [normal_nullTest, truth?, column?_normal]
  | case5 operand low high =>
      simp only [normal_between, truth?, column?_normal, literal?_normal]
  | case6 inner same => exact same
  | case7 term _ _ notCore notNullTest notBetween notGrouped =>
      cases term with
      | atom tokens => rfl
      | infixed operator left right =>
          cases operator with
          | core operator => exact absurd rfl (notCore operator left right)
          | registered kind => rw [normal_infixed, truth?_graft]; rfl
      | nullTest negated operand =>
          exact absurd rfl (notNullTest negated operand)
      | between operand low high =>
          exact absurd rfl (notBetween operand low high)
      | grouped inner => exact absurd rfl (notGrouped inner)
      | _ => simp [truth?]

end Normal

end Term

end Grammar

end SqlExpr
