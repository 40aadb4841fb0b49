import SqlExpr.Node.Predicate
import SqlExpr.Proofs.Output.Alike

/-!
# How truth values are spelled

A configuration that writes truth values as numbers writes a tree as the other
one writes it with these numbers in it.  So the spelling touches nothing but
the truth values: not the operators, not the parentheses, and not the error of
a tree that cannot be written.
-/

namespace SqlExpr

/-- A value with the number one or zero in the place of a truth value. -/
def Value.numbered : Value → Value
  | .bool value => .int (if value then 1 else 0)
  | value => value

/-- A tree with numbers in the place of its truth values. -/
def Node.numbered (node : Node) : Node := node.mapValues Value.numbered

namespace Config

/-- Truth values written as numbers are the numbers one and zero written in
their place. -/
theorem spellsAs_numbered {config : Config}
    (standard : config.operators.HasStandardForms) :
    SpellsAs { config with booleanStyle := .keyword }
      { config with booleanStyle := .numeric } Value.numbered where
  dialect := rfl
  isNull value := by cases value <;> rfl
  literal value := by
    cases value with
    | bool value => cases value <;> rfl
    | _ => rfl
  templates := .inr standard

/-- A tree is written with numeric truth values as it is written with the
numbers one and zero in the place of its truth values, and fails as it does
then. -/
theorem render_numeric_eq_numbered {config : Config}
    (standard : config.operators.HasStandardForms) (node : Node) :
    render { config with booleanStyle := .numeric } node =
      render { config with booleanStyle := .keyword } node.numbered := by
  have written := (spellsAs_numbered standard).renderAt_mapValues .free node
    fun _ _ _ _ => rfl
  exact congrArg Rendering.result written.symm

/-- Truth values are numbers also in an array, behind `THEN` and under a cast;
an array of them is still compared with null. -/
theorem render_numeric_eq_numbered_array :
    let yes : Node := .ofValue (.bool true)
    let no : Node := .literal (.bool false) (some "int")
    let node : Node :=
      (Node.notEq (.unary "array" (.list [yes, no])) .null).and
        (.caseWhen [(no, yes)] (some (.unary "text_array" (.list [no]))))
    postgres.operators.HasStandardForms ∧
      render { postgres with booleanStyle := .numeric } node =
        .ok ("ARRAY[1,0::int] IS NOT NULL AND " ++
          "CASE WHEN 0::int THEN 1 ELSE ARRAY[0::int]::text[] END") := by
  intro yes no node
  have standard := Registry.HasStandardForms.postgres
  refine ⟨standard, ?_⟩
  rw [render_numeric_eq_numbered standard]
  rfl

end Config

end SqlExpr
