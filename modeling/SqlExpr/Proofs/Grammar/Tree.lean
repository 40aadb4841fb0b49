import SqlExpr.Proofs.Grammar.Term
import SqlExpr.Proofs.Output.Phrase

/-!
# The terms of trees

The expressions that the grammar knows have a term each, in which nothing is
said of how they are written: `Config.term` keeps the groups of the tree and
has no other parentheses.  `Config.writtenAt` is the term that is written.  It
has parentheses where the node is put in some, and lacks those of a group that
is taken into a chain.
-/

namespace SqlExpr

open SqlExpr.Grammar SqlExpr.Lexis

/-- The operators of a table are infix operators of a configuration, each with
a symbol that is one token. -/
structure Grammar.OperatorTable.Describes (table : OperatorTable)
    (config : Config) : Prop extends table.IsDistinct where
  form : ∀ entry ∈ table.entries,
    BinaryOperator.ofKind? entry.1 = none ∧
      ∃ symbol left? right?,
        config.operators.find entry.1 = .ok ⟨.infixed symbol, left?, right?⟩ ∧
          Reads symbol.toList [entry.2]

/-- The expressions that the grammar knows: columns, values, groups, calls,
`CASE`, `NOT`, and operators with two operands. -/
inductive Node.IsExpression (table : OperatorTable) : Node → Prop where
  | column (table? : Option String) (name : String) :
      IsExpression table (.column table? name)
  | literal (value : Value) : IsExpression table (.literal value none)
  | registered {kind : String} {left right : Node}
      (known : kind ∈ table.kinds)
      (leftExpression : IsExpression table left)
      (rightExpression : IsExpression table right) :
      IsExpression table (.binary kind left right)
  | core {kind : String} {operator : BinaryOperator} {left right : Node}
      (named : BinaryOperator.ofKind? kind = some operator)
      (plain : operator ∈ plainOperators)
      (leftExpression : IsExpression table left)
      (rightExpression : IsExpression table right) :
      IsExpression table (.binary kind left right)
  | between {operand low high : Node}
      (expression : IsExpression table operand)
      (lowExpression : IsExpression table low)
      (highExpression : IsExpression table high) :
      IsExpression table
        (.binary "BETWEEN" operand (.binary "AND" low high))
  | inList {operand : Node} {items : List Node} (nonempty : items ≠ [])
      (expression : IsExpression table operand)
      (itemExpressions : ∀ item ∈ items, IsExpression table item) :
      IsExpression table (.binary "IN" operand (.group (.list items)))
  | notInList {operand : Node} {items : List Node} (nonempty : items ≠ [])
      (expression : IsExpression table operand)
      (itemExpressions : ∀ item ∈ items, IsExpression table item) :
      IsExpression table (.binary "NOT IN" operand (.group (.list items)))
  | negation {operand : Node} (expression : IsExpression table operand) :
      IsExpression table (.unary "NOT" operand)
  | call (name : String) {arguments : List Node}
      (expressions : ∀ argument ∈ arguments, IsExpression table argument) :
      IsExpression table (.call name arguments)
  | caseWhen {branches : List (Node × Node)} {otherwise? : Option Node}
      (nonempty : branches ≠ [])
      (conditions : ∀ branch ∈ branches, IsExpression table branch.1)
      (results : ∀ branch ∈ branches, IsExpression table branch.2)
      (otherwise : ∀ result ∈ otherwise?, IsExpression table result) :
      IsExpression table (.caseWhen branches otherwise?)
  | group {inner : Node} (expression : IsExpression table inner) :
      IsExpression table (.group inner)

def Position.enclosed (position : Position) (node : Node) (term : Term) :
    Term :=
  if position.parenthesizes node then .grouped term else term

namespace Config

mutual

/-- The term of an expression.  Other nodes get an empty atom. -/
def term (config : Config) : Node → Term
  | .column table? name =>
    .atom ((Part.reference table? name).tokens config)
  | .literal value _ => .atom ((Part.value value).tokens config)
  | .binary kind left right =>
    match BinaryOperator.ofKind? kind with
    | none =>
      .infixed (.registered kind) (config.term left) (config.term right)
    | some operator =>
      if operator.testsNull && right.isNull then
        .nullTest (operator = .notEq) (config.term left)
      else
        match operator, right with
        | .between, .binary _ low high =>
          .between (config.term left) (config.term low) (config.term high)
        | .inList, .group (.list items) =>
          .member false (config.term left) (config.termOfAll items)
        | .notInList, .group (.list items) =>
          .member true (config.term left) (config.termOfAll items)
        | operator, right =>
          .infixed (.core operator) (config.term left) (config.term right)
  | .unary _ operand => .negation (config.term operand)
  | .call name arguments => .call name (config.termOfAll arguments)
  | .caseWhen branches otherwise? =>
    .caseWhen (config.termOfBranches branches) (config.termOfElse otherwise?)
  | .group inner => .grouped (config.term inner)
  | .list _ | .aliased .. | .raw _ => .atom []

def termOfAll (config : Config) : List Node → List Term
  | [] => []
  | node :: nodes => config.term node :: config.termOfAll nodes

def termOfBranches (config : Config) :
    List (Node × Node) → List (Term × Term)
  | [] => []
  | (condition, result) :: branches =>
    (config.term condition, config.term result) ::
      config.termOfBranches branches

def termOfElse (config : Config) : Option Node → Option Term
  | none => none
  | some result => some (config.term result)

end

mutual

/-- The term that an expression is written as in some position. -/
def writtenAt (config : Config) (position : Position) : Node → Term
  | .column table? name =>
    position.enclosed (.column table? name)
      (.atom ((Part.reference table? name).tokens config))
  | .literal value sqlType? =>
    position.enclosed (.literal value sqlType?)
      (.atom ((Part.value value).tokens config))
  | .binary kind left right =>
    match BinaryOperator.ofKind? kind with
    | none =>
      position.enclosed (.binary kind left right)
        (.infixed (.registered kind)
          (config.writtenAt (.operand .other none false) left)
          (config.writtenAt (.operand .other none true) right))
    | some operator =>
      if operator.isConnective then
        if position.continues operator then
          .infixed (.core operator) (config.writtenAt position left)
            (config.writtenAt (.chained operator false) right)
        else
          position.enclosed (.binary kind left right)
            (.infixed (.core operator)
              (config.writtenAt (.chained operator true) left)
              (config.writtenAt (.chained operator false) right))
      else
        position.enclosed (.binary kind left right)
          (let operand := config.writtenAt
            (.operand operator.precedence (some operator) false) left
          if operator.testsNull && right.isNull then
            .nullTest (operator = .notEq) operand
          else
            match operator, right with
            | .between, .binary _ low high =>
              .between operand
                (config.writtenAt (.operand .range (some .between) false) low)
                (config.writtenAt (.operand .range (some .between) true) high)
            | .inList, .group (.list items) =>
              .member false operand (config.writtenOfAll items)
            | .notInList, .group (.list items) =>
              .member true operand (config.writtenOfAll items)
            | operator, right =>
              .infixed (.core operator) operand
                (config.writtenAt
                  (.operand operator.precedence (some operator) true) right))
  | .unary kind operand =>
    position.enclosed (.unary kind operand)
      (.negation (.grouped (config.writtenAt .free operand)))
  | .call name arguments =>
    position.enclosed (.call name arguments)
      (.call name (config.writtenOfAll arguments))
  | .caseWhen branches otherwise? =>
    position.enclosed (.caseWhen branches otherwise?)
      (.caseWhen (config.writtenOfBranches branches)
        (config.writtenOfElse otherwise?))
  | .group inner =>
    if position.continues .or && inner.isBinaryOf .or then
      config.writtenAt position inner
    else
      position.enclosed (.group inner)
        (.grouped (config.writtenAt .free inner))
  | .list _ | .aliased .. | .raw _ => .atom []

def writtenOfAll (config : Config) : List Node → List Term
  | [] => []
  | node :: nodes => config.writtenAt .free node :: config.writtenOfAll nodes

def writtenOfBranches (config : Config) :
    List (Node × Node) → List (Term × Term)
  | [] => []
  | (condition, result) :: branches =>
    (config.writtenAt .free condition, config.writtenAt .free result) ::
      config.writtenOfBranches branches

def writtenOfElse (config : Config) : Option Node → Option Term
  | none => none
  | some result => some (config.writtenAt .free result)

end

section Lists

variable {config : Config}

theorem termOfAll_eq_map (nodes : List Node) :
    config.termOfAll nodes = nodes.map config.term := by
  induction nodes with
  | nil => rfl
  | cons node nodes induction => rw [termOfAll, induction, List.map_cons]

theorem termOfBranches_eq_map (branches : List (Node × Node)) :
    config.termOfBranches branches =
      branches.map fun branch =>
        (config.term branch.1, config.term branch.2) := by
  induction branches with
  | nil => rfl
  | cons branch branches induction =>
      rw [termOfBranches, induction, List.map_cons]

theorem termOfElse_eq_map (otherwise? : Option Node) :
    config.termOfElse otherwise? = otherwise?.map config.term := by
  cases otherwise? <;> rfl

theorem writtenOfAll_eq_map (nodes : List Node) :
    config.writtenOfAll nodes = nodes.map (config.writtenAt .free) := by
  induction nodes with
  | nil => rfl
  | cons node nodes induction => rw [writtenOfAll, induction, List.map_cons]

theorem writtenOfBranches_eq_map (branches : List (Node × Node)) :
    config.writtenOfBranches branches =
      branches.map fun branch =>
        (config.writtenAt .free branch.1, config.writtenAt .free branch.2) := by
  induction branches with
  | nil => rfl
  | cons branch branches induction =>
      rw [writtenOfBranches, induction, List.map_cons]

theorem writtenOfElse_eq_map (otherwise? : Option Node) :
    config.writtenOfElse otherwise? =
      otherwise?.map (config.writtenAt .free) := by
  cases otherwise? <;> rfl

end Lists

end Config

end SqlExpr
