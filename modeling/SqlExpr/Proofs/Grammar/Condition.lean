import SqlExpr.Proofs.Grammar.RoundTrip
import SqlExpr.Proofs.Grammar.Truth
import SqlExpr.Proofs.Output.Failure

/-!
# Conditions and their texts

A condition compares columns with values, and joins such comparisons into
ranges and chains.  It can be written in every configuration if its names and
values can, and its text, when it is read back, says the same of every row as
the condition itself.
-/

namespace SqlExpr

open SqlExpr.Grammar SqlExpr.Lexis SqlExpr.Name SqlExpr.Text

/-- Comparisons of columns with values, and ranges, chains and groups of
them. -/
inductive Node.IsCondition : Node → Prop where
  | comparison {kind : String} {operator : BinaryOperator}
      (named : BinaryOperator.ofKind? kind = some operator)
      (compares : operator.precedence = .comparison)
      (table? : Option String) (name : String) (value : Value) :
      IsCondition (.binary kind (.column table? name) (.literal value none))
  | between (table? : Option String) (name : String) (low high : Value) :
      IsCondition (.between (.column table? name) (.literal low none)
        (.literal high none))
  | chain {kind : String} {operator : BinaryOperator} {left right : Node}
      (named : BinaryOperator.ofKind? kind = some operator)
      (connective : operator.isConnective)
      (leftCondition : IsCondition left) (rightCondition : IsCondition right) :
      IsCondition (.binary kind left right)
  | group {inner : Node} (condition : IsCondition inner) :
      IsCondition (.group inner)

namespace BinaryOperator

variable {operator : BinaryOperator}

theorem mem_plainOperators_of_comparison
    (compares : operator.precedence = .comparison) :
    operator ∈ plainOperators := by
  cases operator <;> first | (cases compares; done) | decide

theorem mem_plainOperators_of_isConnective
    (connective : operator.isConnective) : operator ∈ plainOperators := by
  cases operator <;> first | (cases connective; done) | decide

theorem not_isConnective_of_comparison
    (compares : operator.precedence = .comparison) :
    operator.isConnective = false := by
  cases operator <;> first | rfl | cases compares

end BinaryOperator

namespace Node.IsCondition

variable {node : Node}

theorem isExpression (condition : node.IsCondition) (table : OperatorTable) :
    node.IsExpression table := by
  induction condition with
  | comparison named compares table? name value =>
      exact .core named
        (BinaryOperator.mem_plainOperators_of_comparison compares)
        (.column table? name) (.literal value)
  | between table? name low high =>
      exact .between (.column table? name) (.literal low) (.literal high)
  | chain named connective _ _ left right =>
      exact .core named
        (BinaryOperator.mem_plainOperators_of_isConnective connective)
        left right
  | group _ inner => exact .group inner

theorem keepsQuotients (condition : node.IsCondition) :
    node.KeepsQuotients := by
  have apart {kind : String} {operator : BinaryOperator} {left right : Node}
      (named : BinaryOperator.ofKind? kind = some operator)
      (other : operator ≠ .multiply) :
      (Node.binary kind left right).mergesQuotient = false := by
    simp [Node.mergesQuotient, named, other]
  induction condition with
  | comparison named compares table? name value =>
      refine Node.All.binary.mpr ⟨apart named ?_, Node.All.column.mpr rfl,
        Node.All.literal.mpr rfl⟩
      rintro rfl
      cases compares
  | between table? name low high =>
      refine Node.All.binary.mpr ⟨rfl, Node.All.column.mpr rfl,
        Node.All.binary.mpr ⟨rfl, Node.All.literal.mpr rfl,
          Node.All.literal.mpr rfl⟩⟩
  | chain named connective _ _ left right =>
      refine Node.All.binary.mpr ⟨apart named ?_, left, right⟩
      rintro rfl
      cases connective
  | group _ inner => exact Node.All.group.mpr ⟨rfl, inner⟩

end Node.IsCondition

namespace Config

variable {config : Config} {node : Node}

/-- A column with a valid name can be written in all positions. -/
theorem allWritten_column {table? : Option String} {name : String}
    (valid : config.IsValid (.column table? name)) (position : Position) :
    Part.AllWritten config
      (config.partsAt position (.column table? name)) := by
  have written : ∃ text,
      (Part.reference table? name).render config = .write text := by
    rw [Rendering.exists_write_iff]
    obtain ⟨tableQuotable, quotable⟩ := valid
    have last : config.fault? (.name name) = none :=
      fault?_name_eq_none_iff.mpr quotable
    cases table? with
    | none =>
        simpa [Part.render, renderColumn, Rendering.error?_identifier]
    | some table =>
        have first : config.fault? (.name table) = none :=
          fault?_name_eq_none_iff.mpr (tableQuotable table rfl)
        simpa [Part.render, renderColumn, Rendering.error?_identifier,
          Rendering.error?_tableName, first]
  rw [partsAt]
  exact Position.allWritten_placed (List.forall_mem_singleton.mpr written)

theorem allWritten_literal {value : Value}
    (valid : config.IsValid (.literal value none)) (position : Position) :
    Part.AllWritten config
      (config.partsAt position (.literal value none)) := by
  have written : ∃ text, (Part.value value).render config = .write text := by
    rw [Rendering.exists_write_iff]
    exact (Value.error?_literal config.booleanStyle).trans
      (Value.fault?_eq_none_iff.mpr valid.1)
  rw [partsAt]
  exact Position.allWritten_placed (List.forall_mem_singleton.mpr written)

/-- A condition can be written if its columns and values can. -/
theorem allWritten_condition (condition : node.IsCondition)
    (valid : node.All config.IsValid) {position : Position}
    (unbound : position ≠ .bounds) :
    Part.AllWritten config (config.partsAt position node) := by
  have verbatim (text : String) :
      ∃ own, (Part.verbatim text).render config = .write own := ⟨text, rfl⟩
  induction condition generalizing position with
  | @comparison kind operator named compares table? name value =>
      obtain ⟨-, left, right⟩ := Node.All.binary.mp valid
      have left := allWritten_column (Node.All.column.mp left)
      have right := allWritten_literal (Node.All.literal.mp right)
      have apart : operator ≠ .between := by
        rintro rfl
        cases compares
      rw [partsAt_operator named
        (BinaryOperator.not_isConnective_of_comparison compares),
        if_neg apart]
      refine Position.allWritten_placed
        (List.forall_mem_append.mpr ⟨left _, ?_⟩)
      split
      · exact List.forall_mem_singleton.mpr (verbatim _)
      · exact List.forall_mem_cons.mpr ⟨verbatim _, right _⟩
  | between table? name low high =>
      obtain ⟨-, own, bounds⟩ := Node.All.binary.mp valid
      obtain ⟨-, low, high⟩ := Node.All.binary.mp bounds
      have own := allWritten_column (Node.All.column.mp own)
      have low := allWritten_literal (Node.All.literal.mp low)
      have high := allWritten_literal (Node.All.literal.mp high)
      have named : BinaryOperator.ofKind? "BETWEEN" = some .between := rfl
      unfold Node.between
      rw [partsAt_operator named rfl]
      refine Position.allWritten_placed
        (List.forall_mem_append.mpr ⟨own _, List.forall_mem_cons.mpr
          ⟨verbatim _, ?_⟩⟩)
      exact List.forall_mem_append.mpr
        ⟨low _, List.forall_mem_cons.mpr ⟨verbatim _, high _⟩⟩
  | chain named connective _ _ left right =>
      obtain ⟨-, leftValid, rightValid⟩ := Node.All.binary.mp valid
      rw [partsAt_connective named connective unbound]
      split
      · exact List.forall_mem_append.mpr
          ⟨left leftValid unbound, right rightValid nofun⟩
      · exact Position.allWritten_placed (List.forall_mem_append.mpr
          ⟨left leftValid nofun, right rightValid nofun⟩)
  | group _ inner =>
      obtain ⟨-, innerValid⟩ := Node.All.group.mp valid
      rw [partsAt]
      split
      · exact inner innerValid unbound
      · refine Position.allWritten_placed
          (List.forall_mem_cons.mpr ⟨verbatim _, ?_⟩)
        exact List.forall_mem_append.mpr
          ⟨inner innerValid nofun, List.forall_mem_singleton.mpr (verbatim _)⟩

/-- What the text of a node says of a row when it is read back. -/
def truth? (config : Config) {schema : Schema} (row : schema.Row)
    (node : Node) : Option Truth := do
  let text ← (config.render node).toOption
  let tokens ← scan text
  let term ← coreOperators.read? tokens
  term.truth? row

/-- The text of a condition says the same of every row as the condition. -/
theorem truth?_of_condition (condition : node.IsCondition)
    (valid : node.All config.IsValid) {schema : Schema} (row : schema.Row) :
    config.truth? row node = (config.term node).truth? row := by
  have expression := condition.isExpression coreOperators
  have describes := coreOperators_describes config
  have written : Part.AllWritten config (config.parts node) :=
    allWritten_condition condition valid nofun
  obtain ⟨text, parts⟩ := written.exists_write
  have success : config.render node = .ok text := render_eq_ok_iff.mpr parts
  obtain ⟨tokens, scanned, read⟩ := read?_of_render describes expression success
  have same := normal_reading_writtenAt describes expression success
    condition.keepsQuotients
  calc config.truth? row node
    _ = (config.writtenAt .free node).reading.truth? row := by
      simp [truth?, success, scanned, read, Except.toOption]
    _ = (config.term node).truth? row := by
      rw [← Term.truth?_normal, same, Term.truth?_normal]

/-! ## The tokens of values -/

/-- A value that is written in quotes is read as the text between them. -/
theorem tokens_quoted {value : Value} {content : String}
    (written : value.writeTo config.booleanStyle "" =
      .write ("" ++ quoted '\'' content)) :
    (Part.value value).tokens config = [.text content] := by
  have own : (Part.value value).render config =
      .write (quoted '\'' content) := by
    rw [Part.render, Value.literal_of_writeTo written]
    rfl
  exact Part.tokens_eq own (reads_quoted .single content)

theorem tokens_integer (value : Int) :
    (Part.value (.int value)).tokens config = integerTokens value :=
  Part.tokens_eq rfl (reads_integer value)

/-! ## The truth of comparisons -/

section

variable {schema : Schema} {row : schema.Row} {x y : Node}
  {operator : BinaryOperator} {kind : String} {table? : Option String}
  {name : String} {value low high : Value}

@[simp] theorem truth?_term_and :
    (config.term (x.and y)).truth? row = do
      return (← (config.term x).truth? row).and
        (← (config.term y).truth? row) := rfl

@[simp] theorem truth?_term_or :
    (config.term (x.or y)).truth? row = do
      return (← (config.term x).truth? row).or
        (← (config.term y).truth? row) := rfl

theorem column?_reference (valid : config.IsValid (.column table? name)) :
    (Term.atom ((Part.reference table? name).tokens config)).column? =
      some ((Part.reference table? name).tokens config) := by
  have parts := allWritten_column valid .free
  rw [partsAt] at parts
  have written := Position.allWritten_of_placed parts _ List.mem_cons_self
  have reference := isReference_tokens written
  generalize (Part.reference table? name).tokens config = tokens at reference
  cases reference <;> rfl

/-- A comparison with a value other than null is made with that value. -/
theorem truth?_term_comparison
    (named : BinaryOperator.ofKind? kind = some operator)
    (compares : operator.precedence = .comparison)
    (valid : config.IsValid (.column table? name))
    (notNull : value.isNull = false) :
    (config.term (.binary kind (.column table? name)
        (.literal value none))).truth? row =
      row.compare? operator ((Part.reference table? name).tokens config)
        ((Part.value value).tokens config) := by
  have column := column?_reference valid
  have notTested :
      (operator.testsNull && (Node.literal value none).isNull) = false := by
    simp [Node.isNull, notNull]
  rw [term_plain named
    (BinaryOperator.mem_plainOperators_of_comparison compares), notTested,
    if_neg Bool.false_ne_true, Term.truth?]
  · simp [term, column, Term.literal?]
  all_goals
    rintro ⟨⟩
    cases compares

theorem truth?_term_between
    (valid : config.IsValid (.column table? name)) :
    (config.term (.between (.column table? name) (.literal low none)
        (.literal high none))).truth? row = do
      let column := (Part.reference table? name).tokens config
      return (← row.compare? .gtEq column ((Part.value low).tokens config)).and
        (← row.compare? .ltEq column
          ((Part.value high).tokens config)) := by
  have own : config.term (.between (.column table? name) (.literal low none)
      (.literal high none)) =
      .between (.atom ((Part.reference table? name).tokens config))
        (.atom ((Part.value low).tokens config))
        (.atom ((Part.value high).tokens config)) := rfl
  rw [own, Term.truth?, column?_reference valid]
  rfl

end

end Config

end SqlExpr
