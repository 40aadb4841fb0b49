import SqlExpr.Proofs.Name.Quoting
import SqlExpr.Proofs.Node.Subnodes
import SqlExpr.Proofs.Operator.Forms
import SqlExpr.Proofs.Value.Literal

/-!
# What is checked in a tree

`Node.checks` lists what a tree has to pass before it has a text, from left to
right.  A node is checked before its children, except that the name of a
relation is checked behind the relation.  A tree passes all of them exactly if
each of its nodes is valid by itself.
-/

namespace SqlExpr

open SqlExpr.Name SqlExpr.Text

/-- Something in a tree that can be refused. -/
inductive Check where
  /-- The name of a table, a column or a relation. -/
  | name (name : String)
  | value (value : Value)
  | sqlType (sqlType : String)
  | function (name : String)
  /-- The number of results that a `CASE` can have. -/
  | results (count : Nat)
  /-- The operator of a binary node. -/
  | binary (kind : String)
  /-- The operator of a unary node. -/
  | unary (kind : String)

namespace Node

mutual

/-- The checks of a tree, in the order in which they are made. -/
def checks : Node → List Check
  | .column table? name => (table?.map .name).toList ++ [.name name]
  | .literal value sqlType? =>
    .value value :: (sqlType?.map .sqlType).toList
  | .binary kind left right => .binary kind :: (left.checks ++ right.checks)
  | .unary kind operand => .unary kind :: operand.checks
  | .call name arguments => .function name :: checksOfAll arguments
  | .caseWhen branches otherwise? =>
    .results (branches.length + otherwise?.toList.length) ::
      (checksOfBranches branches ++ checksOfElse otherwise?)
  | .group inner => inner.checks
  | .list items => checksOfAll items
  | .aliased relation name => relation.checks ++ [.name name]
  | .raw _ => []

def checksOfAll : List Node → List Check
  | [] => []
  | node :: nodes => node.checks ++ checksOfAll nodes

def checksOfBranches : List (Node × Node) → List Check
  | [] => []
  | (condition, result) :: branches =>
    condition.checks ++ (result.checks ++ checksOfBranches branches)

def checksOfElse : Option Node → List Check
  | none => []
  | some result => result.checks

end

end Node

namespace Config

/-- The error of a check that is not passed. -/
def fault? (config : Config) : Check → Option ExprError
  | .name name =>
    if name = "" then some .emptyIdentifier
    else if hasNul name then some (.nulInIdentifier (escaped name))
    else none
  | .value value => value.fault?
  | .sqlType sqlType =>
    if TypeName.isValid sqlType then none else some (.invalidType sqlType)
  | .function name =>
    if name = "" then some .emptyFunctionName
    else if isWord ['.'] name then none
    else some (.invalidFunctionName name)
  | .results count => if count = 0 then some .emptyCase else none
  | .binary kind =>
    match BinaryOperator.ofKind? kind, config.operators.form? kind with
    | some _, _ => none
    | none, none => some (.unknownOperator kind)
    | none, some (.infixed _) => none
    | none, some (.template _) => some .binaryArray
    | none, some (.prefixed _) | none, some (.postfixed _) =>
      some (.unaryInBinaryNode kind)
  | .unary kind =>
    match UnaryOperator.ofKind? kind, config.operators.form? kind with
    | some _, _ => none
    | none, none => some (.unknownOperator kind)
    | none, some (.infixed _) => some (.infixInUnaryNode kind)
    | none, some _ => none

/-- The error of the first check that is not passed. -/
def firstFault? (config : Config) (checks : List Check) : Option ExprError :=
  checks.findSome? config.fault?

/-- Whether a node is in order, whatever its children are. -/
def IsValid (config : Config) : Node → Prop
  | .column table? name =>
    (∀ table ∈ table?, IsQuotable table) ∧ IsQuotable name
  | .literal value sqlType? =>
    value.IsWritable ∧ ∀ sqlType ∈ sqlType?, TypeName.isValid sqlType
  | .binary kind _ _ =>
    (BinaryOperator.ofKind? kind).isSome ∨
      ∃ form, config.operators.form? kind = some form ∧ form.isInfix
  | .unary kind _ =>
    (UnaryOperator.ofKind? kind).isSome ∨
      ∃ form, config.operators.form? kind = some form ∧ ¬ form.isInfix
  | .call name _ => isWord ['.'] name
  | .caseWhen branches otherwise? => branches ≠ [] ∨ otherwise? ≠ none
  | .aliased _ name => IsQuotable name
  | .group _ | .list _ | .raw _ => True

section

variable {config : Config} {check : Check} {checks more : List Check}

@[simp] theorem firstFault?_nil : config.firstFault? [] = none := rfl

@[simp] theorem firstFault?_cons :
    config.firstFault? (check :: checks) =
      (config.fault? check).or (config.firstFault? checks) := by
  unfold firstFault?
  rw [List.findSome?_cons]
  cases config.fault? check <;> rfl

@[simp] theorem firstFault?_append :
    config.firstFault? (checks ++ more) =
      (config.firstFault? checks).or (config.firstFault? more) :=
  List.findSome?_append

end

/-! ## The faults of a single check -/

section

variable {config : Config} {name kind : String}

theorem fault?_name_eq_none_iff :
    config.fault? (.name name) = none ↔ IsQuotable name := by
  simp only [fault?, IsQuotable]
  split
  next empty => simp [empty]
  next nonempty => simp [nonempty]

theorem fault?_function_eq_none_iff :
    config.fault? (.function name) = none ↔ isWord ['.'] name := by
  simp only [fault?]
  split
  next empty =>
    subst empty
    simp [isWord]
  next => simp

theorem fault?_results_eq_none_iff {branches : List (Node × Node)}
    {otherwise? : Option Node} :
    config.fault? (.results (branches.length + otherwise?.toList.length)) =
      none ↔ branches ≠ [] ∨ otherwise? ≠ none := by
  cases branches <;> cases otherwise? <;> simp [fault?]

theorem fault?_binary_eq_none_iff :
    config.fault? (.binary kind) = none ↔
      (BinaryOperator.ofKind? kind).isSome ∨
        ∃ form, config.operators.form? kind = some form ∧ form.isInfix := by
  simp only [fault?]
  split <;> simp_all [OperatorForm.isInfix]

theorem fault?_unary_eq_none_iff :
    config.fault? (.unary kind) = none ↔
      (UnaryOperator.ofKind? kind).isSome ∨
        ∃ form, config.operators.form? kind = some form ∧
          ¬ form.isInfix := by
  simp only [fault?]
  split <;> simp_all [OperatorForm.isInfix]

end

/-! ## All checks are passed if all nodes are valid -/

section

variable (config : Config)

mutual

theorem firstFault?_checks_eq_none_iff (node : Node) :
    config.firstFault? node.checks = none ↔ node.All config.IsValid := by
  cases node with
  | column table? name =>
      cases table? <;>
        simp [Node.checks, IsValid, fault?_name_eq_none_iff]
  | literal value sqlType? =>
      cases sqlType? <;>
        simp [Node.checks, IsValid, fault?, Value.fault?_eq_none_iff]
  | binary kind left right =>
      simp [Node.checks, IsValid, fault?_binary_eq_none_iff,
        firstFault?_checks_eq_none_iff left,
        firstFault?_checks_eq_none_iff right]
  | unary kind operand =>
      simp [Node.checks, IsValid, fault?_unary_eq_none_iff,
        firstFault?_checks_eq_none_iff operand]
  | call name arguments =>
      simp [Node.checks, IsValid, fault?_function_eq_none_iff,
        firstFault?_checksOfAll_eq_none_iff arguments]
  | caseWhen branches otherwise? =>
      simp only [Node.checks, IsValid, firstFault?_cons, firstFault?_append,
        Option.or_eq_none_iff, fault?_results_eq_none_iff,
        firstFault?_checksOfBranches_eq_none_iff branches,
        firstFault?_checksOfElse_eq_none_iff otherwise?, Node.All.caseWhen]
  | group inner =>
      simp [Node.checks, IsValid, firstFault?_checks_eq_none_iff inner]
  | list items =>
      simp [Node.checks, IsValid, firstFault?_checksOfAll_eq_none_iff items]
  | aliased relation name =>
      simp [Node.checks, IsValid, fault?_name_eq_none_iff, and_comm,
        firstFault?_checks_eq_none_iff relation]
  | raw sql => simp [Node.checks, IsValid]

theorem firstFault?_checksOfAll_eq_none_iff (nodes : List Node) :
    config.firstFault? (Node.checksOfAll nodes) = none ↔
      ∀ node ∈ nodes, node.All config.IsValid := by
  cases nodes with
  | nil => simp [Node.checksOfAll]
  | cons node nodes =>
      simp [Node.checksOfAll, firstFault?_checks_eq_none_iff node,
        firstFault?_checksOfAll_eq_none_iff nodes]

theorem firstFault?_checksOfBranches_eq_none_iff
    (branches : List (Node × Node)) :
    config.firstFault? (Node.checksOfBranches branches) = none ↔
      ∀ branch ∈ branches,
        branch.1.All config.IsValid ∧ branch.2.All config.IsValid := by
  cases branches with
  | nil => simp [Node.checksOfBranches]
  | cons branch branches =>
      obtain ⟨condition, result⟩ := branch
      simp [Node.checksOfBranches, and_assoc,
        firstFault?_checks_eq_none_iff condition,
        firstFault?_checks_eq_none_iff result,
        firstFault?_checksOfBranches_eq_none_iff branches]

theorem firstFault?_checksOfElse_eq_none_iff (otherwise? : Option Node) :
    config.firstFault? (Node.checksOfElse otherwise?) = none ↔
      ∀ result ∈ otherwise?, result.All config.IsValid := by
  cases otherwise? with
  | none => simp [Node.checksOfElse]
  | some result =>
      simp [Node.checksOfElse, firstFault?_checks_eq_none_iff result]

end

end

end Config

end SqlExpr
