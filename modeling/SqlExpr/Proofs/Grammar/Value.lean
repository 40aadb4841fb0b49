import SqlExpr.Proofs.Grammar.Grouping

/-!
# The values of arithmetic expressions

Integers are not bounded, a quotient is truncated towards zero, and a division
by zero has no value.  A term keeps its value when operands are joined that can
be put together in any order, and so does an expression when it is put in
parentheses.
-/

namespace SqlExpr

open SqlExpr.Grammar SqlExpr.Lexis SqlExpr.Name SqlExpr.Number

namespace BinaryOperator

def isArithmetic : BinaryOperator → Bool
  | plus | minus | multiply | divide => true
  | _ => false

/-- What an arithmetic operator makes of two integers. -/
def compute? : BinaryOperator → Int → Int → Option Int
  | plus, left, right => some (left + right)
  | minus, left, right => some (left - right)
  | multiply, left, right => some (left * right)
  | divide, left, right =>
    if right = 0 then none else some (left.tdiv right)
  | _, _, _ => none

/-- What an arithmetic operator can have on its right without an effect. -/
def neutral : BinaryOperator → Int
  | plus | minus => 0
  | _ => 1

theorem compute?_neutral {operator : BinaryOperator}
    (arithmetic : operator.isArithmetic) (value : Int) :
    operator.compute? value operator.neutral = some value := by
  cases operator <;> first | (cases arithmetic; done) | simp [compute?, neutral]

theorem mem_plainOperators_of_isArithmetic {operator : BinaryOperator}
    (arithmetic : operator.isArithmetic) : operator ∈ plainOperators := by
  cases operator <;> first | (cases arithmetic; done) | decide

theorem not_isConnective_of_isArithmetic {operator : BinaryOperator}
    (arithmetic : operator.isArithmetic) : operator.isConnective = false := by
  cases operator <;> first | rfl | cases arithmetic

theorem not_testsNull_of_isArithmetic {operator : BinaryOperator}
    (arithmetic : operator.isArithmetic) : operator.testsNull = false := by
  cases operator <;> first | rfl | cases arithmetic

end BinaryOperator

namespace Grammar

def InfixOperator.compute? : InfixOperator → Int → Int → Option Int
  | core operator => operator.compute?
  | registered _ => fun _ _ => none

/-- An operand between two operators can be put together with either of them
first. -/
def InfixOperator.Reassociates (first second : InfixOperator) : Prop :=
  ∀ left middle right,
    (first.compute? left middle).bind (second.compute? · right) =
      (second.compute? middle right).bind (first.compute? left)

theorem InfixOperator.reassociates_of_isRegrouped
    {first second : InfixOperator} (joined : first.isRegrouped second) :
    first.Reassociates second := by
  intro left middle right
  unfold isRegrouped at joined
  split at joined
  · simp [compute?, BinaryOperator.compute?, Int.add_assoc]
  · simp [compute?, BinaryOperator.compute?, Int.add_sub_assoc]
  · simp [compute?, BinaryOperator.compute?, Int.mul_assoc]
  · unfold isChained at joined
    split at joined
    · rfl
    · rfl
    · cases joined

namespace Term

def numeralValue? (digits : String) : Option Int :=
  if digits.toList.all isAsciiDigit then
    some (Int.ofNat (Nat.ofDigitChars 10 digits.toList 0))
  else none

def atomValue? (columns : List Token → Int) : List Token → Option Int
  | [.number digits] => numeralValue? digits
  | [.operator "-", .number digits] => (numeralValue? digits).map (- ·)
  | .name content :: rest => some (columns (.name content :: rest))
  | _ => none

/-- The value of an arithmetic term, where the columns hold integers. -/
def value? (columns : List Token → Int) : Term → Option Int
  | .atom tokens => atomValue? columns tokens
  | .infixed operator left right => do
    let first ← left.value? columns
    let second ← right.value? columns
    operator.compute? first second
  | .grouped inner => inner.value? columns
  | _ => none

variable {columns : List Token → Int} {operator : InfixOperator}
  {left right : Term}

theorem value?_infixed :
    (infixed operator left right).value? columns =
      (left.value? columns).bind fun first =>
        (right.value? columns).bind (operator.compute? first) := rfl

theorem value?_graft {merges : InfixOperator → InfixOperator → Bool}
    (reassociates : ∀ other, merges operator other →
      operator.Reassociates other) :
    (graft merges operator left right).value? columns =
      (infixed operator left right).value? columns := by
  fun_induction graft merges operator left right with
  | case1 other first second joined induction =>
      have swap := reassociates other joined
      simp only [value?_infixed, induction]
      cases left.value? columns with
      | none => rfl
      | some left =>
          cases first.value? columns with
          | none => rfl
          | some first =>
              cases second.value? columns with
              | none => simp
              | some second => exact swap left first second
  | case2 | case3 => rfl

theorem value?_normal (term : Term) :
    (term.normal InfixOperator.isRegrouped).value? columns =
      term.value? columns := by
  fun_induction value? columns term with
  | case1 => rfl
  | case2 operator left right first second =>
      have joined := @InfixOperator.reassociates_of_isRegrouped operator
      rw [normal_infixed, value?_graft fun other => joined, value?_infixed,
        first]
      simp only [second]
      rfl
  | case3 inner same => exact same
  | case4 term notAtom notInfixed notGrouped =>
      cases term with
      | atom tokens => exact absurd rfl (notAtom tokens)
      | infixed operator left right =>
          exact absurd rfl (notInfixed operator left right)
      | grouped inner => exact absurd rfl (notGrouped inner)
      | _ => simp [value?]

end Term

end Grammar

/-- The table without registered operators. -/
def Grammar.coreOperators : OperatorTable where
  entries := []

theorem Grammar.coreOperators_describes (config : Config) :
    coreOperators.Describes config where
  injective := nofun
  plain := nofun
  other := nofun
  registered := nofun
  form := nofun

/-! ## The values of trees -/

inductive Node.IsLeaf : Node → Prop where
  | integer (value : Int) : IsLeaf (.literal (.int value) none)
  | column (table? : Option String) (name : String) :
      IsLeaf (.column table? name)

/-- Integers and columns, and groups and arithmetic operations of them. -/
inductive Node.IsArithmetic : Node → Prop where
  | leaf {node : Node} (leaf : node.IsLeaf) : IsArithmetic node
  | operation {kind : String} {operator : BinaryOperator} {left right : Node}
      (named : BinaryOperator.ofKind? kind = some operator)
      (arithmetic : operator.isArithmetic)
      (leftArithmetic : IsArithmetic left)
      (rightArithmetic : IsArithmetic right) :
      IsArithmetic (.binary kind left right)
  | group {inner : Node} (arithmetic : IsArithmetic inner) :
      IsArithmetic (.group inner)

theorem Node.IsArithmetic.isExpression {node : Node}
    (arithmetic : node.IsArithmetic) (table : OperatorTable) :
    node.IsExpression table := by
  induction arithmetic with
  | leaf leaf =>
      cases leaf with
      | integer value => exact .literal (.int value)
      | column table? name => exact .column table? name
  | operation named arithmetic _ _ left right =>
      exact .core named
        (BinaryOperator.mem_plainOperators_of_isArithmetic arithmetic)
        left right
  | group _ inner => exact .group inner

namespace Config

variable {config : Config} {columns : List Token → Int} {node : Node}

/-- The value of an arithmetic expression.  A column holds what is given for
the name that it is written with. -/
def value? (config : Config) (columns : List Token → Int) :
    Node → Option Int
  | .literal (.int value) none => some value
  | .column table? name =>
    some (columns ((Part.reference table? name).tokens config))
  | .binary kind left right => do
    let operator ← BinaryOperator.ofKind? kind
    let first ← config.value? columns left
    let second ← config.value? columns right
    operator.compute? first second
  | .group inner => config.value? columns inner
  | _ => none

theorem value?_operation {kind : String} {operator : BinaryOperator}
    {left right : Node}
    (named : BinaryOperator.ofKind? kind = some operator) :
    config.value? columns (.binary kind left right) =
      (config.value? columns left).bind fun first =>
        (config.value? columns right).bind (operator.compute? first) := by
  simp [value?, named]

theorem numeralValue?_naturalText (n : Nat) :
    Term.numeralValue? (naturalText n) = some n := by
  have decimal : (digits n).all isAsciiDigit :=
    List.all_eq_true.mpr fun _ => isAsciiDigit_of_mem_digits
  have whole : Nat.ofDigitChars 10 (digits n) 0 = n :=
    Nat.ofDigitChars_ten_toDigits
  rw [Term.numeralValue?, naturalText, String.toList_ofList, if_pos decimal,
    whole]
  rfl

theorem atomValue?_integer (value : Int) :
    Term.atomValue? columns ((Part.value (.int value)).tokens config) =
      some value := by
  have own : (Part.value (.int value)).render config =
      .write (integerText value) := rfl
  rw [Part.tokens_eq own (reads_integer value)]
  cases value with
  | ofNat n => exact numeralValue?_naturalText n
  | negSucc n =>
      simp only [integerTokens, Term.atomValue?, numeralValue?_naturalText]
      rfl

theorem atomValue?_reference {tokens : List Token}
    (reference : IsReference tokens) :
    Term.atomValue? columns tokens = some (columns tokens) := by
  cases reference <;> rfl

theorem value?_term (arithmetic : node.IsArithmetic)
    (written : ∀ part ∈ node.data, ∃ text, part.render config = .write text) :
    (config.term node).value? columns = config.value? columns node := by
  induction arithmetic with
  | leaf leaf =>
      cases leaf with
      | integer value => exact atomValue?_integer value
      | column table? name =>
          have own : Part.reference table? name ∈
              (Node.column table? name).data := by
            simp [Node.data, Node.subnodes, Node.ownData]
          exact atomValue?_reference (isReference_tokens (written _ own))
  | @operation kind operator left right named arithmetic _ _ first second =>
      rw [Node.data_binary, List.forall_mem_append] at written
      rw [term_plain named
        (BinaryOperator.mem_plainOperators_of_isArithmetic arithmetic),
        BinaryOperator.not_testsNull_of_isArithmetic arithmetic,
        value?_operation named]
      simp only [Bool.false_and, Bool.false_eq_true, ↓reduceIte,
        Term.value?_infixed, first written.1, second written.2]
      rfl
  | group _ same =>
      rw [Node.data_group] at written
      exact same written

end Config

end SqlExpr
