import SqlExpr.Config.Basic
import SqlExpr.Render.Position
import SqlExpr.Render.Rendering

/-!
# Rendering

An expression is written from left to right.  Chains of `AND` and of `OR` are
written without inner parentheses however their operands are nested, and under
`OR` also when a disjunction in the chain stands in parentheses.  A rendering
fails at the first node that breaks a rule; what was written before it is kept
apart from the error, so that a caller may look at it.
-/

namespace SqlExpr

open SqlExpr.Text

/-- A piece of a template; `fill` writes the operands. -/
def Piece.render {place : Type} (style : BooleanStyle)
    (fill : place → Rendering) : Piece place → Rendering
  | .text fixed => .write fixed
  | .styled keyword numeric =>
    .write (match style with
      | .keyword => keyword
      | .numeric => numeric)
  | .value held => held.writeTo style ""
  | .operand place => fill place
  | .fail cause => .fail cause

/-- The pieces of a template one after the other. -/
def Piece.renderAll {place : Type} (style : BooleanStyle)
    (fill : place → Rendering) (pieces : List (Piece place)) : Rendering :=
  .join "" (pieces.map (Piece.render style fill))

/-- The operand of a unary operator, given by the renderings of its items. -/
def SinglePlace.fill (items : List Rendering) : SinglePlace → Rendering
  | .whole => .join ", " items
  | .items separator => .join separator items

/-- The operands of a binary operator. -/
def PairPlace.fill (leftSide rightSide : Rendering) : PairPlace → Rendering
  | .left => leftSide
  | .right => rightSide

namespace Config

/-- A column with its table, if it has one. -/
def renderColumn (config : Config) (table? : Option String) (name : String) :
    Rendering :=
  let quoting := config.dialect.quoting
  match table? with
  | some table =>
    .ofResult (quoting.tableName table) ++ .write "." ++
      .ofResult (quoting.identifier name)
  | none => .ofResult (quoting.identifier name)

/-- A value with its cast, if it has one. -/
def renderLiteral (config : Config) (value : Value)
    (sqlType? : Option String) : Rendering :=
  value.writeTo config.booleanStyle "" ++
    match sqlType? with
    | some sqlType =>
      .ofCheck (TypeName.check sqlType) ++ .write ("::" ++ trim sqlType)
    | none => .empty

mutual

/-- A node in some position. -/
def renderAt (config : Config) (position : Position) : Node → Rendering
  | .column table? name =>
    position.place (.column table? name) (config.renderColumn table? name)
  | .literal value sqlType? =>
    position.place (.literal value sqlType?)
      (config.renderLiteral value sqlType?)
  | .binary kind left right =>
    match BinaryOperator.ofKind? kind with
    | none =>
      position.place (.binary kind left right)
        (match config.operators.find kind with
        | .error error => .fail error
        | .ok definition =>
          match definition.form with
          | .infixed symbol =>
            config.renderAt (.operand .other none false) left ++
              .write (" " ++ symbol ++ " ") ++
              config.renderAt (.operand .other none true) right
          | .template template =>
            Piece.renderAll config.booleanStyle
              (PairPlace.fill (config.renderAt .free left)
                (config.renderAt .free right))
              template.pair
          | .prefixed _ | .postfixed _ => .fail (.unaryInBinaryNode kind))
    | some operator =>
      match operator, position with
      | .and, .bounds =>
        config.renderAt (.operand .range (some .between) false) left ++
          .write " AND " ++
          config.renderAt (.operand .range (some .between) true) right
      | _, _ =>
        if operator.isConnective then
          if position.continues operator then
            config.renderAt position left ++
              config.renderAt (.chained operator false) right
          else
            position.place (.binary kind left right)
              (config.renderAt (.chained operator true) left ++
                config.renderAt (.chained operator false) right)
        else
          position.place (.binary kind left right)
            (config.renderAt
                (.operand operator.precedence (some operator) false) left ++
              if operator.testsNull && right.isNull then
                .write operator.nullTest
              else if operator = .between then
                .write " BETWEEN " ++ config.renderAt .bounds right
              else
                .write (" " ++ operator.symbol ++ " ") ++
                  config.renderAt
                    (.operand operator.precedence (some operator) true) right)
  | .unary kind operand =>
    position.place (.unary kind operand)
      (match UnaryOperator.ofKind? kind with
      | some operator =>
        .write operator.surroundings.1 ++ config.renderAt .free operand ++
          .write operator.surroundings.2
      | none =>
        match config.operators.find kind with
        | .error error => .fail error
        | .ok definition =>
          match definition.form with
          | .prefixed symbol =>
            .write symbol ++ config.renderAt .free operand
          | .postfixed symbol =>
            config.renderAt .free operand ++ .write symbol
          | .template template =>
            let items :=
              match operand with
              | .list items => config.renderAll items
              | operand => [config.renderAt .free operand]
            Piece.renderAll config.booleanStyle (SinglePlace.fill items)
              template.single
          | .infixed _ => .fail (.infixInUnaryNode kind))
  | .call name arguments =>
    position.place (.call name arguments)
      (.ofCheck (Node.checkFunctionName name) ++ .write (name ++ "(") ++
        .join ", " (config.renderAll arguments) ++ .write ")")
  | .caseWhen branches otherwise? =>
    position.place (.caseWhen branches otherwise?)
      (.ofCheck (Node.checkCase branches otherwise?) ++ .write "CASE" ++
        config.renderBranches branches ++ config.renderElse otherwise? ++
        .write " END")
  | .group inner =>
    if position.continues .or && inner.isBinaryOf .or then
      config.renderAt position inner
    else
      position.place (.group inner)
        (.write "(" ++ config.renderAt .free inner ++ .write ")")
  | .list items =>
    position.place (.list items) (.join ", " (config.renderAll items))
  | .aliased relation name =>
    position.place (.aliased relation name)
      (config.renderAt .free relation ++ .write " " ++
        .ofResult (config.dialect.quoting.identifier name))
  | .raw sql => position.place (.raw sql) (.write sql)

/-- Each of several nodes on its own. -/
def renderAll (config : Config) : List Node → List Rendering
  | [] => []
  | node :: nodes => config.renderAt .free node :: config.renderAll nodes

/-- The branches of a `CASE`. -/
def renderBranches (config : Config) : List (Node × Node) → Rendering
  | [] => .empty
  | (condition, result) :: branches =>
    .write " WHEN " ++ config.renderAt .free condition ++
      .write " THEN " ++ config.renderAt .free result ++
      config.renderBranches branches

/-- The `ELSE` of a `CASE`. -/
def renderElse (config : Config) : Option Node → Rendering
  | none => .empty
  | some result => .write " ELSE " ++ config.renderAt .free result

end

/-- A node on its own, with what was written before an error. -/
def rendering (config : Config) (node : Node) : Rendering :=
  config.renderAt .free node

/-- The SQL text of a node. -/
def render (config : Config) (node : Node) : ExprResult String :=
  (config.rendering node).result

/-- Several nodes with a separator between neighbours. -/
def renderList (config : Config) (separator : String) (nodes : List Node) :
    Rendering :=
  .join separator (config.renderAll nodes)

end Config

end SqlExpr
