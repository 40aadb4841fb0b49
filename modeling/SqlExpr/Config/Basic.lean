import SqlExpr.Name
import SqlExpr.Operator.Extension

/-!
# Configurations

A configuration says how expressions are written: in which dialect, how truth
values are spelled, and which operators there are besides the core ones.  It
is put together step by step; the first registration that is refused makes the
whole configuration fail.
-/

namespace SqlExpr

/-- How expressions are written. -/
structure Config where
  dialect : Dialect
  booleanStyle : BooleanStyle
  operators : Registry
  deriving Inhabited

/-- A configuration in the making, with the first error met so far. -/
structure ConfigBuilder where
  dialect : Dialect := .postgres
  booleanStyle : BooleanStyle := .keyword
  operators : Registry := .empty
  error? : Option ExprError := none

namespace ConfigBuilder

def setDialect (builder : ConfigBuilder) (dialect : Dialect) :
    ConfigBuilder :=
  { builder with dialect }

def setBooleanStyle (builder : ConfigBuilder) (style : BooleanStyle) :
    ConfigBuilder :=
  { builder with booleanStyle := style }

/-- Define the operators of an extension. -/
def addExtension (builder : ConfigBuilder) (extension : Extension) :
    ConfigBuilder :=
  { builder with operators := extension.install builder.operators }

/-- Register an operator.  After an error nothing is registered any more. -/
def register (builder : ConfigBuilder) (kind : String)
    (definition : OperatorDefinition) : ConfigBuilder :=
  match builder.error? with
  | some _ => builder
  | none =>
    match builder.operators.register kind definition with
    | .ok operators => { builder with operators }
    | .error error => { builder with error? := some error }

/-- The finished configuration, or the first error. -/
def build (builder : ConfigBuilder) : ExprResult Config :=
  match builder.error? with
  | some error => .error error
  | none => .ok ⟨builder.dialect, builder.booleanStyle, builder.operators⟩

end ConfigBuilder

namespace Config

/-- The configuration with both extensions and truth values as keywords. -/
def postgres : Config where
  dialect := .postgres
  booleanStyle := .keyword
  operators := Extension.json.install (Extension.array.install .empty)

/-- Build a binary node with the coercions of its kind. -/
def binary (config : Config) (kind : String) (left right : Operand) :
    ExprResult Node :=
  config.operators.binary kind left right

/-- Build a unary node with the coercion of its kind. -/
def unary (config : Config) (kind : String) (operand : Operand) :
    ExprResult Node :=
  config.operators.unary kind operand

/-- `ARRAY[…]` -/
def array (config : Config) (items : List Node) : ExprResult Node :=
  config.unary Extension.arrayKind (.many items)

/-- `ARRAY[…]::text[]` -/
def textArray (config : Config) (items : List Node) : ExprResult Node :=
  config.unary Extension.textArrayKind (.many items)

/-- `x -> key` -/
def jsonGet (config : Config) (x key : Node) : ExprResult Node :=
  config.binary Extension.getKind (.single x) (.single key)

/-- `x ->> key` -/
def jsonGetText (config : Config) (x key : Node) : ExprResult Node :=
  config.binary Extension.getTextKind (.single x) (.single key)

/-- `x #> path` -/
def jsonGetPath (config : Config) (x : Node) (path : List Node) :
    ExprResult Node :=
  config.binary Extension.getPathKind (.single x) (.many path)

/-- `x #>> path` -/
def jsonGetPathText (config : Config) (x : Node) (path : List Node) :
    ExprResult Node :=
  config.binary Extension.getPathTextKind (.single x) (.many path)

end Config

end SqlExpr
