import SqlExpr.Operator.Registry

/-!
# Extensions

Two families of operators come ready-made.  The array family writes
`ARRAY[a,b]` and `ARRAY[a,b]::text[]`; its operands are flattened, so that lists
within lists become one list.  The JSON family writes the accessors `->`,
`->>`, `#>` and `#>>`; the last two take a path, which becomes a text array.
-/

namespace SqlExpr

/-- A ready-made family of operators. -/
inductive Extension where
  | array
  /-- Brings the array family along. -/
  | json
  deriving DecidableEq, Repr

namespace Extension

/-- The kind of `ARRAY[…]`. -/
def arrayKind : String := "array"

/-- The kind of `ARRAY[…]::text[]`. -/
def textArrayKind : String := "text_array"

/-- The kind of `x -> key`. -/
def getKind : String := "->"

/-- The kind of `x ->> key`. -/
def getTextKind : String := "->>"

/-- The kind of `x #> path`. -/
def getPathKind : String := "#>"

/-- The kind of `x #>> path`. -/
def getPathTextKind : String := "#>>"

mutual

/-- The nodes that are left of a node when lists are opened at every depth. -/
def flatten : Node → List Node
  | .list items => flattenAll items
  | node => [node]

/-- The nodes that are left of several nodes when lists are opened. -/
def flattenAll : List Node → List Node
  | [] => []
  | node :: nodes => flatten node ++ flattenAll nodes

end

/-- One list without lists in it. -/
def flattened : Coercion := fun operand =>
  .ok (.list (flattenAll operand.items))

/-- A text array of the items as they are. -/
def textArrayOf : Coercion := fun operand =>
  .ok (.unary textArrayKind (.list operand.items))

/-- An array of one operand, closed by the given text. -/
def arrayTemplate (close : String) : Template where
  single := [.text "ARRAY[", .operand (.items ","), .text close]
  pair := [.fail .binaryArray]

def arrayDefinition (close : String) : OperatorDefinition where
  form := .template (arrayTemplate close)
  left? := some flattened

def infixDefinition (symbol : String) : OperatorDefinition where
  form := .infixed symbol

def pathDefinition (symbol : String) : OperatorDefinition where
  form := .infixed symbol
  right? := some textArrayOf

/-- The definitions of the array family. -/
def arrayDefinitions : List (String × OperatorDefinition) :=
  [ (textArrayKind, arrayDefinition "]::text[]"),
    (arrayKind, arrayDefinition "]") ]

/-- The definitions of the JSON family alone. -/
def jsonDefinitions : List (String × OperatorDefinition) :=
  [ (getKind, infixDefinition getKind),
    (getTextKind, infixDefinition getTextKind),
    (getPathKind, pathDefinition getPathKind),
    (getPathTextKind, pathDefinition getPathTextKind) ]

/-- All that an extension defines. -/
def definitions : Extension → List (String × OperatorDefinition)
  | array => arrayDefinitions
  | json => arrayDefinitions ++ jsonDefinitions

/-- Define the operators of an extension. -/
def install (extension : Extension) (registry : Registry) : Registry :=
  extension.definitions.foldl
    (fun registry (kind, definition) => registry.define kind definition)
    registry

end Extension

end SqlExpr
