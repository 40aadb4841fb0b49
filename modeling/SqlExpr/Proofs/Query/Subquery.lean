import SqlExpr.Proofs.Name.Quoting
import SqlExpr.Proofs.Output.Rendering
import SqlExpr.Query.Scope
import SqlExpr.Render.Basic

/-!
# Queries in the place of tables

A query in the place of a table stands in parentheses before a name, which is
quoted as a whole.  The columns taken from it are qualified with the name of a
table, and such a name is quoted part by part if it is made of plain parts.
So a column refers to the query exactly if the name has not several of them.
-/

namespace SqlExpr

open SqlExpr.Name SqlExpr.Text

namespace Config

variable {config : Config} {query : Node} {name own sql text : String}

/-- A query that renders is written in parentheses, and its name behind it. -/
theorem render_aliased_group (rendered : config.render query = .ok sql)
    (quotable : IsQuotable name) :
    config.render (.aliased (.group query) name) =
      .ok ("(" ++ sql ++ ") " ++ quoted '"' name) := by
  have inner : config.renderAt .free query = .write sql :=
    Rendering.result_eq_ok_iff.mp rendered
  have written : config.dialect.quoting.identifier name =
      .ok (quoted '"' name) := quoteIdentifier_eq_ok_iff.mpr ⟨quotable, rfl⟩
  apply Rendering.result_eq_ok_iff.mpr
  simp [rendering, renderAt, Position.place, Position.separator,
    Position.parenthesizes, Position.continues, inner, written,
    Rendering.ofResult, String.append_assoc]

theorem render_column_of_table {table : String}
    (qualifier : config.dialect.quoting.tableName table = .ok text)
    (valid : quoteIdentifier name = .ok own) :
    config.render (.column (some table) name) =
      .ok (text ++ "." ++ own) := by
  have written : config.dialect.quoting.identifier name = .ok own := valid
  apply Rendering.result_eq_ok_iff.mpr
  simp [rendering, renderAt, Position.place, Position.separator,
    Position.parenthesizes, renderColumn, qualifier, written,
    Rendering.ofResult]

end Config

namespace Scope

variable {scope : Scope} {query relation : Node} {table : Table}
  {name column sql own : String}

theorem quoting_eq (plain : scope.quoting? = none) :
    scope.quoting = Dialect.postgres.quoting := by
  unfold quoting
  rw [plain]
  rfl

/-- Without a quoting of its own, a scope gives a query every name that can be
quoted, and gives the table of its columns the same one. -/
theorem subquery_eq_ok_iff (plain : scope.quoting? = none) :
    scope.subquery query name = .ok (relation, table) ↔
      IsQuotable name ∧ relation = .aliased (.group query) name ∧
        table = { name } := by
  have same : scope.quoting.identifier name = quoteIdentifier name := by
    rw [quoting_eq plain]
    rfl
  unfold subquery
  rw [same]
  cases quotedName : quoteIdentifier name with
  | error error =>
      constructor
      · intro success
        cases success
      · rintro ⟨quotable, _⟩
        rw [quoteIdentifier_eq_ok_iff.mpr ⟨quotable, rfl⟩] at quotedName
        cases quotedName
  | ok text =>
      have quotable := (quoteIdentifier_eq_ok_iff.mp quotedName).1
      constructor
      · intro success
        cases success
        exact ⟨quotable, rfl, rfl⟩
      · rintro ⟨_, rfl, rfl⟩
        rfl

/-- The columns of a query are taken from the relation that it is, under one
name with it, exactly if the name has not several plain parts. -/
theorem subquery_same_name_iff (plain : scope.quoting? = none)
    (rendered : scope.config.render query = .ok sql)
    (made : scope.subquery query name = .ok (relation, table))
    (valid : quoteIdentifier column = .ok own) :
    (∃ relationName,
      scope.config.render relation =
          .ok ("(" ++ sql ++ ") " ++ relationName) ∧
        scope.config.render (table.column column) =
          .ok (relationName ++ "." ++ own)) ↔ ¬ IsCompound name := by
  obtain ⟨quotable, rfl, rfl⟩ := (subquery_eq_ok_iff plain).mp made
  have relationText := Config.render_aliased_group rendered quotable
  obtain ⟨qualifier, written⟩ := exists_tableName_iff.mpr quotable
  have columnText : scope.config.render (Table.column { name } column) =
      .ok (qualifier ++ "." ++ own) :=
    Config.render_column_of_table written valid
  rw [← tableName_eq_quoted_iff quotable, written, relationText, columnText]
  simp only [Except.ok.injEq]
  constructor
  · rintro ⟨relationName, front, back⟩
    rw [String.append_right_inj] at front
    rw [String.append_left_inj, String.append_left_inj] at back
    rw [back, front]
  · rintro rfl
    exact ⟨_, rfl, rfl⟩

/-- The name `a.b` is quoted as a whole behind the query, and in two parts in
front of a column. -/
theorem subquery_same_name_iff_dotted :
    let noon : Calendar.Timestamp :=
      ⟨⟨2024, 3, 15, by decide⟩, ⟨12, 0, 0, 0, by decide⟩⟩
    let scope : Scope := ⟨{ name := "articles" }, .postgres, none, noon⟩
    scope.subquery (.int 1) "a.b" =
        .ok (.aliased (.group (.int 1)) "a.b", { name := "a.b" }) ∧
      scope.config.render (.aliased (.group (.int 1)) "a.b") =
        .ok "(1) \"a.b\"" ∧
      scope.config.render (Table.column { name := "a.b" } "id") =
        .ok "\"a\".\"b\".\"id\"" ∧
      ¬ ∃ relationName,
        scope.config.render (.aliased (.group (.int 1)) "a.b") =
            .ok ("(" ++ "1" ++ ") " ++ relationName) ∧
          scope.config.render (Table.column { name := "a.b" } "id") =
            .ok (relationName ++ "." ++ "\"id\"") := by
  intro noon scope
  have made : scope.subquery (.int 1) "a.b" =
      .ok (.aliased (.group (.int 1)) "a.b", { name := "a.b" }) := rfl
  have rendered : scope.config.render (.int 1) = .ok "1" := rfl
  have compound : IsCompound "a.b" := ⟨["a", "b"], by decide, by decide⟩
  refine ⟨made, rfl, rfl, ?_⟩
  rw [subquery_same_name_iff rfl rendered made rfl]
  exact not_not_intro compound

end Scope

end SqlExpr
