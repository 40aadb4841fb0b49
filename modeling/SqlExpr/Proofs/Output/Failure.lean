import SqlExpr.Proofs.Node.Checks
import SqlExpr.Render.Basic

/-!
# When a rendering fails

A tree has a text exactly if each of its nodes is valid by itself.  If not, the
rendering ends with the error of the first check that is not passed, whatever
stands around the node in question: neither a chain nor the bounds of a range
nor a comparison with null skips a check that can fail, or makes two checks in
another order.
-/

namespace SqlExpr

open SqlExpr.Name SqlExpr.Text

/-! ## Errors of the parts of a rendering -/

namespace Rendering

variable {config : Config}

theorem error?_join (separator : String) (renderings : List Rendering) :
    (join separator renderings).error? =
      renderings.findSome? Rendering.error? := by
  induction renderings with
  | nil => rfl
  | cons rendering rest induction =>
      rw [List.findSome?_cons]
      cases rest with
      | nil => cases own : rendering.error? <;> simp [join, own]
      | cons next rest =>
          simp only [join, error?_append, error?_write, Option.or_none,
            induction]
          cases rendering.error? <;> rfl

theorem error?_identifier (name : String) :
    (ofResult (config.dialect.quoting.identifier name)).error? =
      config.fault? (.name name) := by
  have quoting :
      config.dialect.quoting.identifier name = quoteIdentifier name := rfl
  rw [quoting]
  simp only [quoteIdentifier, Config.fault?, String.isEmpty_iff]
  split
  · rfl
  · split <;> rfl

/-- A table is refused as a single name is: the parts of a qualified name never
are. -/
theorem error?_tableName (name : String) :
    (ofResult (config.dialect.quoting.tableName name)).error? =
      config.fault? (.name name) := by
  cases qualified : qualifiedParts? name with
  | none =>
      have quoting : config.dialect.quoting.tableName name =
          config.dialect.quoting.identifier name :=
        tableName_of_unqualified qualified
      rw [quoting, error?_identifier]
  | some parts =>
      have quoting : config.dialect.quoting.tableName name =
          .ok (joinWith "." (parts.map (quoted '"'))) :=
        tableName_of_qualified qualified
      have valid := isQuotable_of_qualifiedParts? qualified
      rw [quoting, Config.fault?_name_eq_none_iff.mpr valid]
      rfl

theorem error?_checkType (config : Config) (sqlType : String) :
    (ofCheck (TypeName.check sqlType)).error? =
      config.fault? (.sqlType sqlType) := by
  simp only [TypeName.check, Config.fault?]
  split <;> rfl

theorem error?_checkFunctionName (config : Config) (name : String) :
    (ofCheck (Node.checkFunctionName name)).error? =
      config.fault? (.function name) := by
  simp only [Node.checkFunctionName, Config.fault?, String.isEmpty_iff]
  split
  · rfl
  · split <;> rfl

theorem error?_checkCase (config : Config)
    (branches : List (Node × Node)) (otherwise? : Option Node) :
    (ofCheck (Node.checkCase branches otherwise?)).error? =
      config.fault?
        (.results (branches.length + otherwise?.toList.length)) := by
  cases branches <;> cases otherwise? <;> rfl

/-- An array fails as its items do. -/
theorem error?_array {shape : Template} {style : BooleanStyle}
    (standard : (OperatorForm.template shape).IsStandard)
    (items : List Rendering) :
    (Piece.renderAll style (SinglePlace.fill items) shape.single).error? =
      items.findSome? Rendering.error? := by
  obtain rfl | rfl := standard <;>
    simp [Extension.arrayTemplate, Piece.renderAll, Piece.render, join,
      SinglePlace.fill, error?_join]

theorem error?_pairArray {shape : Template} {style : BooleanStyle}
    (standard : (OperatorForm.template shape).IsStandard)
    (leftSide rightSide : Rendering) :
    (Piece.renderAll style (PairPlace.fill leftSide rightSide)
        shape.pair).error? = some .binaryArray := by
  obtain rfl | rfl := standard <;> rfl

end Rendering

/-! ## The error of a tree -/

namespace Config

open Rendering

variable {config : Config}

/-- A comparison with null leaves out a node that cannot fail. -/
theorem firstFault?_of_isNull {node : Node} (null : node.isNull) :
    config.firstFault? node.checks = none := by
  rw [Node.eq_null_of_isNull null]
  rfl

section Operators

variable (standard : config.operators.HasStandardForms) {position : Position}
  {kind : String} {left right operand : Node}
include standard

theorem error?_renderAt_binary
    (leftError : ∀ position,
      (config.renderAt position left).error? = config.firstFault? left.checks)
    (rightError : ∀ position,
      (config.renderAt position right).error? =
        config.firstFault? right.checks) :
    (config.renderAt position (.binary kind left right)).error? =
      config.firstFault? (Node.binary kind left right).checks := by
  simp only [renderAt, Node.checks, firstFault?_cons, firstFault?_append]
  cases core : BinaryOperator.ofKind? kind with
  | none =>
      simp only [error?_place]
      cases known : config.operators.form? kind with
      | none =>
          rw [Registry.find_of_form?_eq_none known]
          simp [fault?, core, known]
      | some form =>
          obtain ⟨definition, found, rfl⟩ :=
            Registry.find_of_form?_eq_some known
          rw [found]
          cases own : definition.form with
          | infixed symbol =>
              simp [own, fault?, core, known, leftError, rightError]
          | prefixed symbol => simp [own, fault?, core, known]
          | postfixed symbol => simp [own, fault?, core, known]
          | template shape =>
              have shapes := standard kind _ known
              rw [own] at shapes
              simp [own, fault?, core, known, error?_pairArray shapes]
  | some operator =>
      have passed : config.fault? (.binary kind) = none := by
        simp [fault?, core]
      simp only [passed, Option.none_or]
      split
      · simp [leftError, rightError]
      · split
        · split
          · simp [leftError, rightError]
          · simp [error?_place, leftError, rightError]
        · simp only [error?_place, error?_append, leftError]
          congr 1
          split
          next test =>
            rw [Bool.and_eq_true] at test
            rw [firstFault?_of_isNull test.2]
            rfl
          next =>
            split
            · simp [rightError]
            · simp [rightError]

/-- The items of a list are written without the list itself. -/
theorem error?_renderAt_unary
    (operandError : (config.renderAt .free operand).error? =
      config.firstFault? operand.checks)
    (itemsError : ∀ items, operand = .list items →
      (config.renderAll items).findSome? Rendering.error? =
        config.firstFault? (Node.checksOfAll items)) :
    (config.renderAt position (.unary kind operand)).error? =
      config.firstFault? (Node.unary kind operand).checks := by
  rw [renderAt.eq_def]
  simp only [error?_place, Node.checks, firstFault?_cons]
  cases core : UnaryOperator.ofKind? kind with
  | some operator => simp [fault?, core, operandError]
  | none =>
      cases known : config.operators.form? kind with
      | none =>
          rw [Registry.find_of_form?_eq_none known]
          simp [fault?, core, known]
      | some form =>
          obtain ⟨definition, found, rfl⟩ :=
            Registry.find_of_form?_eq_some known
          rw [found]
          cases own : definition.form with
          | infixed symbol => simp [own, fault?, core, known]
          | prefixed symbol => simp [own, fault?, core, known, operandError]
          | postfixed symbol => simp [own, fault?, core, known, operandError]
          | template shape =>
              have shapes := standard kind _ known
              rw [own] at shapes
              simp only [own, fault?, core, known, Option.none_or,
                error?_array shapes]
              cases operand with
              | list items => exact itemsError items rfl
              | _ => simpa using operandError

end Operators

mutual

/-- Where a node stands makes no difference to its error. -/
theorem error?_renderAt (standard : config.operators.HasStandardForms)
    (position : Position) (node : Node) :
    (config.renderAt position node).error? =
      config.firstFault? node.checks := by
  cases node with
  | column table? name =>
      cases table? with
      | none =>
          simp [renderAt, error?_place, renderColumn, Node.checks,
            error?_identifier]
      | some table =>
          simp [renderAt, error?_place, renderColumn, Node.checks,
            error?_identifier, error?_tableName]
  | literal value sqlType? =>
      cases sqlType? with
      | none =>
          simp [renderAt, error?_place, renderLiteral, Node.checks, fault?,
            Value.error?_writeTo]
      | some sqlType =>
          simp [renderAt, error?_place, renderLiteral, Node.checks,
            Value.error?_writeTo, error?_checkType config]
          rfl
  | binary kind left right =>
      apply error?_renderAt_binary standard
      · intro position
        exact error?_renderAt standard position left
      · intro position
        exact error?_renderAt standard position right
  | unary kind operand =>
      apply error?_renderAt_unary standard
      · exact error?_renderAt standard .free operand
      · cases operand with
        | list items =>
            rintro _ ⟨⟩
            exact error?_renderAll standard items
        | _ => rintro _ ⟨⟩
  | call name arguments =>
      simp [renderAt, error?_place, Node.checks, error?_join,
        error?_checkFunctionName config, error?_renderAll standard arguments]
  | caseWhen branches otherwise? =>
      simp [renderAt, error?_place, Node.checks, error?_checkCase config,
        error?_renderBranches standard branches,
        error?_renderElse standard otherwise?, Option.or_assoc]
  | group inner =>
      simp only [renderAt, Node.checks]
      split
      · exact error?_renderAt standard position inner
      · simp [error?_place, error?_renderAt standard .free inner]
  | list items =>
      simp [renderAt, error?_place, Node.checks, error?_join,
        error?_renderAll standard items]
  | aliased relation name =>
      simp [renderAt, error?_place, Node.checks, error?_identifier,
        error?_renderAt standard .free relation]
  | raw sql => simp [renderAt, error?_place, Node.checks]

theorem error?_renderAll (standard : config.operators.HasStandardForms)
    (nodes : List Node) :
    (config.renderAll nodes).findSome? Rendering.error? =
      config.firstFault? (Node.checksOfAll nodes) := by
  cases nodes with
  | nil => rfl
  | cons node nodes =>
      rw [renderAll, List.findSome?_cons, Node.checksOfAll,
        firstFault?_append, error?_renderAt standard .free node,
        error?_renderAll standard nodes]
      cases config.firstFault? node.checks <;> rfl

theorem error?_renderBranches (standard : config.operators.HasStandardForms)
    (branches : List (Node × Node)) :
    (config.renderBranches branches).error? =
      config.firstFault? (Node.checksOfBranches branches) := by
  cases branches with
  | nil => rfl
  | cons branch branches =>
      obtain ⟨condition, result⟩ := branch
      simp [renderBranches, Node.checksOfBranches, Option.or_assoc,
        error?_renderAt standard .free condition,
        error?_renderAt standard .free result,
        error?_renderBranches standard branches]

theorem error?_renderElse (standard : config.operators.HasStandardForms)
    (otherwise? : Option Node) :
    (config.renderElse otherwise?).error? =
      config.firstFault? (Node.checksOfElse otherwise?) := by
  cases otherwise? with
  | none => rfl
  | some result =>
      simp [renderElse, Node.checksOfElse,
        error?_renderAt standard .free result]

end

theorem error?_rendering (standard : config.operators.HasStandardForms)
    (node : Node) :
    (config.rendering node).error? = config.firstFault? node.checks :=
  error?_renderAt standard .free node

/-- A tree has a text exactly if all of its nodes are valid, and if not, it has
the error of the first check that is not passed. -/
theorem render_settled_by_checks
    (standard : config.operators.HasStandardForms) (node : Node) :
    ((∃ sql, config.render node = .ok sql) ↔ node.All config.IsValid) ∧
      ∀ error, config.render node = .error error ↔
        ∃ before check after, node.checks = before ++ check :: after ∧
          config.fault? check = some error ∧
          ∀ earlier ∈ before, config.fault? earlier = none := by
  constructor
  · calc
      (∃ sql, config.render node = .ok sql)
      _ ↔ ∃ sql, config.rendering node = .write sql := by
        simp only [render, Rendering.result_eq_ok_iff]
      _ ↔ config.firstFault? node.checks = none := by
        rw [Rendering.exists_write_iff, error?_rendering standard]
      _ ↔ node.All config.IsValid :=
        config.firstFault?_checks_eq_none_iff node
  · intro error
    unfold render
    rw [Rendering.result_eq_error_iff, error?_rendering standard]
    exact List.findSome?_eq_some_iff

/-- A text with a NUL character is refused before the type that it is cast to,
and that before the name of the relation around it. -/
theorem render_settled_by_checks_nul :
    let config : Config := { postgres with
      operators := postgres.operators.define "abs" ⟨.prefixed "@ ", none, none⟩ }
    let node : Node := .binary "OR"
      (.binary "=" (.unary "abs" (.column (some "t") "a")) .null)
      (.aliased
        (.call "f" [.literal (.text "\x00") (some "int;"), .unary "?" .null])
        "")
    config.operators.HasStandardForms ∧
      config.render node = .error .nulInText ∧
      ∃ sql, config.render (.unary "abs" (.list [.int 1])) = .ok sql := by
  intro config node
  have standard : config.operators.HasStandardForms := by
    apply Registry.HasStandardForms.define
    · exact Registry.HasStandardForms.postgres
    · trivial
  refine ⟨standard, ?_, ?_⟩
  · apply ((render_settled_by_checks standard node).2 _).mpr
    refine ⟨[.binary "OR", .binary "=", .unary "abs", .name "t", .name "a",
      .value .null, .function "f"], .value (.text "\x00"),
      [.sqlType "int;", .unary "?", .value .null, .name ""], rfl, rfl, ?_⟩
    decide
  · apply (render_settled_by_checks standard _).1.mpr
    have known : config.operators.form? "abs" = some (.prefixed "@ ") := by
      rfl
    simp [IsValid, known, OperatorForm.isInfix, Node.int, Node.ofValue,
      Value.IsWritable]

end Config

end SqlExpr
