import SqlExpr.Proofs.Value.Literal
import SqlExpr.Render.Basic

/-!
# The parts of a rendering

What a node writes is a sequence of parts: fixed text, names, values, casts and
the heads of calls, each of which is checked and written by itself.  Which
parts there are, and where parentheses stand among them, does not depend on
what the names and values hold.  `renderAt_eq_ofParts` says that a rendering is
the sequence of its parts; what is proved of renderings is proved of these.
-/

namespace SqlExpr

open SqlExpr.Text

/-- A piece of what a node writes. -/
inductive Part where
  /-- Text that is written as it is. -/
  | verbatim (text : String)
  /-- A column, with its table if it has one. -/
  | reference (table? : Option String) (name : String)
  /-- The name of a relation. -/
  | label (name : String)
  /-- The value of a literal. -/
  | value (value : Value)
  /-- A value that belongs to the template of an operator. -/
  | constant (value : Value)
  /-- `::type` -/
  | cast (sqlType : String)
  /-- `name(` -/
  | head (function : String)
  /-- A check that fails. -/
  | fail (error : ExprError)
  deriving Inhabited, Repr

namespace Part

/-- What a part writes, or the error that it ends with. -/
def render (config : Config) : Part → Rendering
  | verbatim text => .write text
  | reference table? name => config.renderColumn table? name
  | label name => .ofResult (config.dialect.quoting.identifier name)
  | value held => .ofResult (held.literal config.booleanStyle)
  | constant held => .ofResult (held.literal config.booleanStyle)
  | cast sqlType =>
    .ofCheck (TypeName.check sqlType) ++ .write ("::" ++ trim sqlType)
  | head function =>
    .ofCheck (Node.checkFunctionName function) ++ .write (function ++ "(")
  | fail error => .fail error

/-- A text, if it is not empty. -/
def ofText (text : String) : List Part :=
  if text = "" then [] else [verbatim text]

def ofCheck : ExprResult Unit → List Part
  | .ok () => []
  | .error error => [fail error]

/-- Sequences of parts with a text between neighbours. -/
def join (separator : String) : List (List Part) → List Part
  | [] => []
  | [parts] => parts
  | parts :: rest => parts ++ verbatim separator :: join separator rest

end Part

namespace Rendering

def ofParts (config : Config) : List Part → Rendering
  | [] => empty
  | part :: parts => part.render config ++ ofParts config parts

@[simp] theorem ofParts_nil (config : Config) : ofParts config [] = empty :=
  rfl

@[simp] theorem ofParts_cons (config : Config) (part : Part)
    (parts : List Part) :
    ofParts config (part :: parts) =
      part.render config ++ ofParts config parts := rfl

@[simp] theorem ofParts_append (config : Config) (first second : List Part) :
    ofParts config (first ++ second) =
      ofParts config first ++ ofParts config second := by
  induction first with
  | nil => simp
  | cons part parts induction => simp [induction, append_assoc]

theorem ofParts_join (config : Config) (separator : String)
    (sequences : List (List Part)) :
    ofParts config (Part.join separator sequences) =
      join separator (sequences.map (ofParts config)) := by
  induction sequences with
  | nil => rfl
  | cons parts rest induction =>
      cases rest with
      | nil => rfl
      | cons next rest =>
          simp only [Part.join, ofParts_append, ofParts_cons, induction,
            List.map_cons, join, append_assoc]
          rfl

theorem ofResult_eq_write {result : ExprResult String} {text : String}
    (success : ofResult result = write text) : result = .ok text := by
  cases result with
  | error error => cases success
  | ok own =>
      cases success
      rfl

theorem ofCheck_eq_write {check : ExprResult Unit} {text : String}
    (success : ofCheck check = write text) : check = .ok () ∧ text = "" := by
  cases check with
  | error error => cases success
  | ok =>
      cases success
      exact ⟨rfl, rfl⟩

end Rendering

def Piece.parts {place : Type} (style : BooleanStyle)
    (fill : place → List Part) : Piece place → List Part
  | .text fixed => [.verbatim fixed]
  | .styled keyword numeric =>
    [.verbatim (match style with
      | .keyword => keyword
      | .numeric => numeric)]
  | .value held => [.constant held]
  | .operand place => fill place
  | .fail cause => [.fail cause]

def Piece.allParts {place : Type} (style : BooleanStyle)
    (fill : place → List Part) (pieces : List (Piece place)) : List Part :=
  pieces.flatMap (Piece.parts style fill)

/-- The parts of a unary operator's operand, given by those of its items. -/
def SinglePlace.parts (items : List (List Part)) : SinglePlace → List Part
  | .whole => Part.join ", " items
  | .items separator => Part.join separator items

def PairPlace.parts (leftSide rightSide : List Part) : PairPlace → List Part
  | .left => leftSide
  | .right => rightSide

/-- The text that joins a node to the one before it in its chain. -/
def Position.joint : Position → List Part
  | chained connective false => [.verbatim (" " ++ connective.symbol ++ " ")]
  | _ => []

/-- The parts of a node where it stands: joined to what is before it, and in
parentheses if it has to be. -/
def Position.placed (position : Position) (node : Node) (body : List Part) :
    List Part :=
  position.joint ++
    if position.parenthesizes node then
      .verbatim "(" :: (body ++ [.verbatim ")"])
    else body

namespace Config

mutual

/-- The parts of a node in some position. -/
def partsAt (config : Config) (position : Position) : Node → List Part
  | .column table? name =>
    position.placed (.column table? name) [.reference table? name]
  | .literal value sqlType? =>
    position.placed (.literal value sqlType?)
      (.value value :: (sqlType?.map Part.cast).toList)
  | .binary kind left right =>
    match BinaryOperator.ofKind? kind with
    | none =>
      position.placed (.binary kind left right)
        (match config.operators.find kind with
        | .error error => [.fail error]
        | .ok definition =>
          match definition.form with
          | .infixed symbol =>
            config.partsAt (.operand .other none false) left ++
              .verbatim (" " ++ symbol ++ " ") ::
                config.partsAt (.operand .other none true) right
          | .template template =>
            Piece.allParts config.booleanStyle
              (PairPlace.parts (config.partsAt .free left)
                (config.partsAt .free right))
              template.pair
          | .prefixed _ | .postfixed _ => [.fail (.unaryInBinaryNode kind)])
    | some operator =>
      match operator, position with
      | .and, .bounds =>
        config.partsAt (.operand .range (some .between) false) left ++
          .verbatim " AND " ::
            config.partsAt (.operand .range (some .between) true) right
      | _, _ =>
        if operator.isConnective then
          if position.continues operator then
            config.partsAt position left ++
              config.partsAt (.chained operator false) right
          else
            position.placed (.binary kind left right)
              (config.partsAt (.chained operator true) left ++
                config.partsAt (.chained operator false) right)
        else
          position.placed (.binary kind left right)
            (config.partsAt
                (.operand operator.precedence (some operator) false) left ++
              if operator.testsNull && right.isNull then
                [.verbatim operator.nullTest]
              else if operator = .between then
                .verbatim " BETWEEN " :: config.partsAt .bounds right
              else
                .verbatim (" " ++ operator.symbol ++ " ") ::
                  config.partsAt
                    (.operand operator.precedence (some operator) true) right)
  | .unary kind operand =>
    position.placed (.unary kind operand)
      (match UnaryOperator.ofKind? kind with
      | some operator =>
        Part.ofText operator.surroundings.1 ++
          (config.partsAt .free operand ++
            Part.ofText operator.surroundings.2)
      | none =>
        match config.operators.find kind with
        | .error error => [.fail error]
        | .ok definition =>
          match definition.form with
          | .prefixed symbol =>
            .verbatim symbol :: config.partsAt .free operand
          | .postfixed symbol =>
            config.partsAt .free operand ++ [.verbatim symbol]
          | .template template =>
            let items :=
              match operand with
              | .list items => config.partsOfAll items
              | operand => [config.partsAt .free operand]
            Piece.allParts config.booleanStyle (SinglePlace.parts items)
              template.single
          | .infixed _ => [.fail (.infixInUnaryNode kind)])
  | .call name arguments =>
    position.placed (.call name arguments)
      (.head name :: (Part.join ", " (config.partsOfAll arguments) ++
        [.verbatim ")"]))
  | .caseWhen branches otherwise? =>
    position.placed (.caseWhen branches otherwise?)
      (Part.ofCheck (Node.checkCase branches otherwise?) ++
        .verbatim "CASE" :: (config.partsOfBranches branches ++
          (config.partsOfElse otherwise? ++ [.verbatim " END"])))
  | .group inner =>
    if position.continues .or && inner.isBinaryOf .or then
      config.partsAt position inner
    else
      position.placed (.group inner)
        (.verbatim "(" :: (config.partsAt .free inner ++ [.verbatim ")"]))
  | .list items =>
    position.placed (.list items) (Part.join ", " (config.partsOfAll items))
  | .aliased relation name =>
    position.placed (.aliased relation name)
      (config.partsAt .free relation ++ [.verbatim " ", .label name])
  | .raw sql => position.placed (.raw sql) [.verbatim sql]

def partsOfAll (config : Config) : List Node → List (List Part)
  | [] => []
  | node :: nodes => config.partsAt .free node :: config.partsOfAll nodes

def partsOfBranches (config : Config) : List (Node × Node) → List Part
  | [] => []
  | (condition, result) :: branches =>
    .verbatim " WHEN " :: (config.partsAt .free condition ++
      .verbatim " THEN " :: (config.partsAt .free result ++
        config.partsOfBranches branches))

def partsOfElse (config : Config) : Option Node → List Part
  | none => []
  | some result => .verbatim " ELSE " :: config.partsAt .free result

end

def parts (config : Config) (node : Node) : List Part :=
  config.partsAt .free node

end Config

/-! ## A rendering is the sequence of its parts -/

namespace Rendering

variable (config : Config)

@[simp] theorem ofParts_ofText (text : String) :
    ofParts config (Part.ofText text) = write text := by
  by_cases blank : text = ""
  · subst text
    rfl
  · simp [Part.ofText, blank, Part.render]

@[simp] theorem ofParts_ofCheck (check : ExprResult Unit) :
    ofParts config (Part.ofCheck check) = ofCheck check := by
  cases check with
  | error error => rfl
  | ok => rfl

theorem ofParts_placed (position : Position) (node : Node)
    (body : List Part) :
    ofParts config (position.placed node body) =
      position.place node (ofParts config body) := by
  have joint : ofParts config position.joint = write position.separator := by
    obtain _ | _ | ⟨connective, _ | _⟩ | _ := position <;>
      simp [Position.joint, Position.separator, Part.render] <;> rfl
  unfold Position.placed Position.place
  split <;> simp [joint, Part.render, append_assoc]

theorem ofParts_allParts {place : Type} (fill : place → List Part)
    (pieces : List (Piece place)) :
    ofParts config (Piece.allParts config.booleanStyle fill pieces) =
      Piece.renderAll config.booleanStyle
        (fun place => ofParts config (fill place)) pieces := by
  induction pieces with
  | nil => rfl
  | cons piece pieces induction =>
      have first : ofParts config (piece.parts config.booleanStyle fill) =
          piece.render config.booleanStyle
            (fun place => ofParts config (fill place)) := by
        cases piece with
        | styled keyword numeric =>
            cases style : config.booleanStyle <;>
              simp [Piece.parts, Piece.render, Part.render]
        | _ => simp [Piece.parts, Piece.render, Part.render]
      simp only [Piece.allParts, List.flatMap_cons, ofParts_append, first]
        at induction ⊢
      rw [induction]
      cases pieces with
      | nil => simp [Piece.renderAll, join]
      | cons next pieces =>
          simp [Piece.renderAll, join, ← empty.eq_def]

end Rendering

namespace Config

mutual

/-- What a node writes is what its parts write. -/
theorem renderAt_eq_ofParts (config : Config) (position : Position)
    (node : Node) :
    config.renderAt position node =
      .ofParts config (config.partsAt position node) := by
  cases node with
  | column table? name =>
      simp [renderAt, partsAt, Rendering.ofParts_placed, Part.render]
  | literal value sqlType? =>
      cases sqlType? <;>
        simp [renderAt, partsAt, Rendering.ofParts_placed, Part.render,
          renderLiteral]
  | binary kind left right =>
      have leftParts := fun position =>
        renderAt_eq_ofParts config position left
      have rightParts := fun position =>
        renderAt_eq_ofParts config position right
      simp only [renderAt, partsAt]
      cases BinaryOperator.ofKind? kind with
      | none =>
          simp only [Rendering.ofParts_placed]
          cases config.operators.find kind with
          | error error => simp [Part.render]
          | ok definition =>
              obtain ⟨form, left?, right?⟩ := definition
              cases form with
              | infixed symbol =>
                  simp [Part.render, leftParts, rightParts,
                    Rendering.append_assoc]
              | template template =>
                  simp only [Rendering.ofParts_allParts, leftParts, rightParts]
                  congr 2
                  funext place
                  cases place <;> rfl
              | prefixed symbol => simp [Part.render]
              | postfixed symbol => simp [Part.render]
      | some operator =>
          simp only []
          split
          · simp [Part.render, leftParts, rightParts, Rendering.append_assoc]
          · split
            · split
              · simp [leftParts, rightParts]
              · simp [leftParts, rightParts, Rendering.ofParts_placed]
            · simp only [Rendering.ofParts_placed, Rendering.ofParts_append,
                leftParts]
              split
              · simp [Part.render]
              · split <;> simp [Part.render, rightParts]
  | unary kind operand =>
      have operandParts := renderAt_eq_ofParts config .free operand
      rw [renderAt.eq_def, partsAt.eq_def]
      simp only [Rendering.ofParts_placed]
      cases UnaryOperator.ofKind? kind with
      | some operator => simp [operandParts, Rendering.append_assoc]
      | none =>
          cases config.operators.find kind with
          | error error => simp [Part.render]
          | ok definition =>
              obtain ⟨form, left?, right?⟩ := definition
              cases form with
              | prefixed symbol => simp [Part.render, operandParts]
              | postfixed symbol => simp [Part.render, operandParts]
              | infixed symbol => simp [Part.render]
              | template template =>
                  simp only [Rendering.ofParts_allParts]
                  congr 2
                  funext place
                  cases operand with
                  | list items =>
                      cases place <;>
                        simp [SinglePlace.fill, SinglePlace.parts,
                          Rendering.ofParts_join,
                          renderAll_eq_ofParts config items]
                  | _ =>
                      cases place <;>
                        simp [SinglePlace.fill, SinglePlace.parts,
                          Rendering.ofParts_join, operandParts]
  | call name arguments =>
      simp [renderAt, partsAt, Rendering.ofParts_placed, Part.render,
        Rendering.ofParts_join, renderAll_eq_ofParts config arguments,
        Rendering.append_assoc]
  | caseWhen branches otherwise? =>
      simp [renderAt, partsAt, Rendering.ofParts_placed, Part.render,
        renderBranches_eq_ofParts config branches,
        renderElse_eq_ofParts config otherwise?, Rendering.append_assoc]
  | group inner =>
      simp only [renderAt, partsAt]
      split
      · exact renderAt_eq_ofParts config position inner
      · simp [Rendering.ofParts_placed, Part.render,
          renderAt_eq_ofParts config .free inner, Rendering.append_assoc]
  | list items =>
      simp [renderAt, partsAt, Rendering.ofParts_placed,
        Rendering.ofParts_join, renderAll_eq_ofParts config items]
  | aliased relation name =>
      simp [renderAt, partsAt, Rendering.ofParts_placed, Part.render,
        renderAt_eq_ofParts config .free relation, Rendering.append_assoc]
  | raw sql => simp [renderAt, partsAt, Rendering.ofParts_placed, Part.render]

theorem renderAll_eq_ofParts (config : Config) (nodes : List Node) :
    config.renderAll nodes =
      (config.partsOfAll nodes).map (Rendering.ofParts config) := by
  cases nodes with
  | nil => rfl
  | cons node nodes =>
      simp [renderAll, partsOfAll, renderAt_eq_ofParts config .free node,
        renderAll_eq_ofParts config nodes]

theorem renderBranches_eq_ofParts (config : Config)
    (branches : List (Node × Node)) :
    config.renderBranches branches =
      .ofParts config (config.partsOfBranches branches) := by
  cases branches with
  | nil => rfl
  | cons branch branches =>
      obtain ⟨condition, result⟩ := branch
      simp [renderBranches, partsOfBranches, Part.render,
        renderAt_eq_ofParts config .free condition,
        renderAt_eq_ofParts config .free result,
        renderBranches_eq_ofParts config branches, Rendering.append_assoc]

theorem renderElse_eq_ofParts (config : Config) (otherwise? : Option Node) :
    config.renderElse otherwise? =
      .ofParts config (config.partsOfElse otherwise?) := by
  cases otherwise? with
  | none => rfl
  | some result =>
      simp [renderElse, partsOfElse, Part.render,
        renderAt_eq_ofParts config .free result]

end

theorem render_eq_ofParts (config : Config) (node : Node) :
    config.render node =
      (Rendering.ofParts config (config.parts node)).result := by
  unfold render rendering
  rw [renderAt_eq_ofParts]
  rfl

/-- A node is rendered as a text exactly if its parts write that text. -/
theorem render_eq_ok_iff {config : Config} {node : Node} {text : String} :
    config.render node = .ok text ↔
      Rendering.ofParts config (config.parts node) = .write text := by
  rw [render_eq_ofParts]
  generalize Rendering.ofParts config (config.parts node) = rendering
  obtain ⟨written, _ | error⟩ := rendering
  · simp [Rendering.result, Rendering.write]
  · simp [Rendering.result, Rendering.write]

end Config

end SqlExpr
