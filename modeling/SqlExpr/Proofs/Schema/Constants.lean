import SqlExpr.Proofs.Schema.Derivation
import SqlExpr.Proofs.Text.WordCase

/-!
# Names of constants

The constants for the columns are named after the fields, in upper case.  Such a
name tells the words of the field's name up to the case of their letters, but
not what stands between them.  Two fields with the same words have constants of
the same name.
-/

namespace SqlExpr.Schema

open SqlExpr.Text

variable {declaration : Declaration} {schema : TableSchema}
  {name other : String}

theorem constantName_eq_iff : constantName name = constantName other ↔
    shoutyCase name = shoutyCase other :=
  String.append_right_inj "COL_"

/-- No column has the constant of the table. -/
theorem constantName_ne_table (name : String) :
    constantName name ≠ "TABLE" := by
  intro same
  have letters := congrArg String.toList same
  simp [constantName] at letters

/-- The constants of a schema have different names exactly if those of the
columns have. -/
theorem nodup_names_iff (success : declaration.schema = .ok schema)
    (reading : Reading declaration) :
    (schema.constants.map Prod.fst).Nodup ↔
      (keptFields reading.fields).Pairwise fun read other =>
        shoutyCase (unmarked read.field.name) ≠
          shoutyCase (unmarked other.field.name) := by
  obtain ⟨_, found, _, rfl⟩ := schema_eq_ok_iff.mp success
  cases Subsingleton.elim found reading
  have apart : "TABLE" ∉
      ((keptFields reading.fields).map ReadField.constant).map Prod.fst := by
    intro member
    obtain ⟨_, inside, same⟩ := List.mem_map.mp member
    obtain ⟨read, _, rfl⟩ := List.mem_map.mp inside
    exact constantName_ne_table _ same
  rw [Reading.schema, List.map_cons, List.nodup_cons, and_iff_right apart,
    List.map_map, List.Nodup, List.pairwise_map]
  apply List.Pairwise.iff
  intro read other
  exact constantName_eq_iff.not

/-- The constants have different names exactly if the names of the fields that
are not left out differ in their words, up to the case of letters.  Within
ASCII these are the names that differ in lower case with underscores between
words. -/
theorem constants_nodup_iff (success : declaration.schema = .ok schema)
    (reading : Reading declaration) :
    ((schema.constants.map Prod.fst).Nodup ↔
      ((keptFields reading.fields).map fun read =>
        (nameWords (unmarked read.field.name)).map uppercaseWord).Nodup) ∧
    ((∀ read ∈ keptFields reading.fields,
        ∀ c ∈ (unmarked read.field.name).toList, c.toNat < 128) →
      ((schema.constants.map Prod.fst).Nodup ↔
        ((keptFields reading.fields).map fun read =>
          snakeCase (unmarked read.field.name)).Nodup)) := by
  rw [nodup_names_iff success reading]
  constructor
  · rw [List.Nodup, List.pairwise_map]
    apply List.Pairwise.iff
    intro read other
    exact shoutyCase_eq_iff.not
  · intro ascii
    rw [List.Nodup, List.pairwise_map]
    apply List.Pairwise.iff_of_mem
    intro read other known otherKnown
    exact (shoutyCase_eq_iff_snakeCase_eq (ascii read known)
      (ascii other otherKnown)).not

/-- The declaration `struct T { r#type: i64, type_: i64 }`. -/
def typeTwice : Declaration :=
  ⟨.namedFields, "T", [], [⟨"r#type", []⟩, ⟨"type_", []⟩]⟩

/-- Fields whose names differ in an underscore at the end have constants of the
same name. -/
theorem constants_not_nodup_of_typeTwice :
    (typeTwice.fields.map (unmarked ·.name)).Nodup ∧
      ∃ schema, typeTwice.schema = .ok schema ∧
        ¬ (schema.constants.map Prod.fst).Nodup := by
  let reading : Reading typeTwice :=
    { names := []
      fields := [⟨⟨"r#type", []⟩, _, .nil⟩, ⟨⟨"type_", []⟩, _, .nil⟩]
      said := .nil
      listed := rfl }
  have success : typeTwice.schema = .ok reading.schema := by rfl
  refine ⟨by decide, reading.schema, success, ?_⟩
  rw [(constants_nodup_iff success reading).1]
  decide +kernel

end SqlExpr.Schema
