import SqlExpr.Proofs.Grammar.Condition
import SqlExpr.Query.Scope

/-!
# Columns that can be written

A scope takes a column by its name or as a node.  In a condition both mean the
column that is written: a comparison of it with a value says of a row what its
tokens say.
-/

namespace SqlExpr.Scope

open SqlExpr.Grammar SqlExpr.Lexis

/-- A column of a scope whose name can be written. -/
structure NamedColumn (scope : Scope) where
  column : ColumnRef
  table? : Option String
  name : String
  resolves : scope.column column = .column table? name
  valid : scope.config.IsValid (.column table? name)

namespace NamedColumn

variable {scope : Scope} (column : scope.NamedColumn)

def tokens : List Token :=
  (Part.reference column.table? column.name).tokens scope.config

/-- The column that a valid name means. -/
def ofName (scope : Scope) (name : String)
    (valid : scope.config.IsValid (scope.table.column name)) :
    scope.NamedColumn where
  column := .name name
  table? := some scope.table.name
  name := name
  resolves := rfl
  valid := valid

variable {schema : Schema} {row : schema.Row} {kind : String}
  {operator : BinaryOperator} {value low high : Value}

theorem isCondition_comparison
    (named : BinaryOperator.ofKind? kind = some operator)
    (compares : operator.precedence = .comparison) :
    (Node.binary kind (scope.column column.column)
      (.ofValue value)).IsCondition := by
  rw [column.resolves]
  exact .comparison named compares ..

theorem isValid_comparison
    (named : BinaryOperator.ofKind? kind = some operator)
    (writable : value.IsWritable) :
    (Node.binary kind (scope.column column.column)
      (.ofValue value)).All scope.config.IsValid := by
  rw [column.resolves]
  exact Node.All.binary.mpr ⟨.inl (named ▸ rfl),
    Node.All.column.mpr column.valid,
    Node.All.literal.mpr ⟨writable, nofun⟩⟩

theorem truth?_comparison
    (named : BinaryOperator.ofKind? kind = some operator)
    (compares : operator.precedence = .comparison)
    (notNull : value.isNull = false) :
    (scope.config.term (.binary kind (scope.column column.column)
        (.ofValue value))).truth? row =
      row.compare? operator column.tokens
        ((Part.value value).tokens scope.config) := by
  rw [column.resolves]
  exact Config.truth?_term_comparison named compares column.valid notNull

section Range

variable (lowWritable : low.IsWritable) (highWritable : high.IsWritable)
include lowWritable highWritable

/-- A range of values says that the column holds no less than the lower and no
more than the upper one. -/
theorem truth?_between (row : schema.Row) :
    scope.config.truth? row ((scope.column column.column).between
        (.ofValue low) (.ofValue high)) =
      row.within? column.tokens ((Part.value low).tokens scope.config)
        ((Part.value high).tokens scope.config) := by
  rw [column.resolves]
  have condition := Node.IsCondition.between column.table? column.name low high
  have valid : ((Node.column column.table? column.name).between
      (.ofValue low) (.ofValue high)).All scope.config.IsValid :=
    Node.All.binary.mpr ⟨.inl rfl, Node.All.column.mpr column.valid,
      Node.All.binary.mpr ⟨.inl rfl,
        Node.All.literal.mpr ⟨lowWritable, nofun⟩,
        Node.All.literal.mpr ⟨highWritable, nofun⟩⟩⟩
  exact (scope.config.truth?_of_condition condition valid row).trans
    (Config.truth?_term_between column.valid)

/-- So do two comparisons, if the values are not null. -/
theorem truth?_gtEq_and_ltEq (row : schema.Row)
    (lowNotNull : low.isNull = false) (highNotNull : high.isNull = false) :
    scope.config.truth? row
        (((scope.column column.column).gtEq (.ofValue low)).and
          ((scope.column column.column).ltEq (.ofValue high))) =
      row.within? column.tokens ((Part.value low).tokens scope.config)
        ((Part.value high).tokens scope.config) := by
  have atLeast : BinaryOperator.ofKind? ">=" = some .gtEq := rfl
  have atMost : BinaryOperator.ofKind? "<=" = some .ltEq := rfl
  have condition : (((scope.column column.column).gtEq (.ofValue low)).and
      ((scope.column column.column).ltEq (.ofValue high))).IsCondition := by
    apply Node.IsCondition.chain rfl rfl
    · exact column.isCondition_comparison atLeast rfl
    · exact column.isCondition_comparison atMost rfl
  have valid : (((scope.column column.column).gtEq (.ofValue low)).and
      ((scope.column column.column).ltEq (.ofValue high))).All
        scope.config.IsValid :=
    Node.All.binary.mpr ⟨.inl rfl,
      column.isValid_comparison atLeast lowWritable,
      column.isValid_comparison atMost highWritable⟩
  rw [scope.config.truth?_of_condition condition valid,
    Config.truth?_term_and, Node.gtEq, Node.ltEq,
    column.truth?_comparison atLeast rfl lowNotNull,
    column.truth?_comparison atMost rfl highNotNull]
  rfl

end Range

end NamedColumn

end SqlExpr.Scope
