import SqlExpr.Calendar.Timestamp
import SqlExpr.Config.Basic
import SqlExpr.Node.Predicate
import SqlExpr.Query.Argument

/-!
# Scopes

A scope is what an expression is built in: the table whose columns are meant,
the configuration, possibly a quoting of its own for names that are quoted at
once, and the current time.
-/

namespace SqlExpr

open SqlExpr.Calendar SqlExpr.Name SqlExpr.Number SqlExpr.Text

/-- What an expression is built in. -/
structure Scope where
  table : Table
  config : Config
  quoting? : Option Quoting
  now : Timestamp

namespace Scope

/-- The quoting of names that are quoted at once. -/
def quoting (scope : Scope) : Quoting :=
  scope.quoting?.getD scope.config.dialect.quoting

/-- The node of a column. -/
def column (scope : Scope) (column : ColumnRef) : Node :=
  column.resolve scope.table

/-- The primary key of the table. -/
def primaryKey (scope : Scope) : Node :=
  scope.table.column scope.table.primaryKey

/-! ## Calls -/

/-- `NOW()` -/
def nowCall : Node := .call "NOW" []

/-- `COALESCE(…)` -/
def coalesce (arguments : List Node) : Node := .call "COALESCE" arguments

/-- `CONCAT(…)` -/
def concat (arguments : List Node) : Node := .call "CONCAT" arguments

/-- `CAST(x AS type)` with a node for the type. -/
def castAs (x type : Node) : Node := .call "CAST" [x.asName type]

/-- `CAST(x AS type)` with the name of a type. -/
def cast (x : Node) (sqlType : String) : ExprResult Node := do
  TypeName.check sqlType
  return castAs x (.raw (trim sqlType))

/-- `(a), (b), …`: each item as a row of its own. -/
def rows (items : List Node) : Node := .list (items.map .group)

/-- `EXTRACT(part FROM x)` -/
def extract (scope : Scope) (part : DatePart) (column : ColumnRef) : Node :=
  .call "EXTRACT" [.binary "FROM" (.raw part.keyword) (scope.column column)]

/-- `EXTRACT(YEAR FROM x)` -/
def extractYear (scope : Scope) (column : ColumnRef) : Node :=
  scope.extract .year column

/-! ## Conditions -/

/-- `x IS NULL` -/
def isNull (scope : Scope) (column : ColumnRef) : Node :=
  (scope.column column).eq .null

/-- `COUNT(CASE WHEN x THEN 1 END)` -/
def countWhere (scope : Scope) (column : ColumnRef) : Node :=
  .call "COUNT" [.caseWhen [(scope.column column, .int 1)] none]

/-- `SUM(CASE WHEN x THEN a ELSE b END)` -/
def sumEither (scope : Scope) (column : ColumnRef) (yes no : Node) : Node :=
  .call "SUM" [.caseWhen [(scope.column column, yes)] (some no)]

/-- `SUM(CASE WHEN x THEN 1 ELSE 0 END)` -/
def sumWhere (scope : Scope) (column : ColumnRef) : Node :=
  scope.sumEither column (.int 1) (.int 0)

/-- The column in the direction that a text names, or as it is if the text
names none. -/
def orderBy (scope : Scope) (column : ColumnRef) (direction : String) : Node :=
  let node := scope.column column
  match Direction.read? direction with
  | some .asc => node.asc
  | some .desc => node.desc
  | none => node

/-! ## Relations -/

/-- `CROSS JOIN` with a table or with a relation that has a name. -/
def crossJoin (scope : Scope) : JoinTarget → ExprResult Node
  | .name name =>
    if isBlankText name then .error .blankJoinName
    else do
      let quoted ← scope.quoting.tableName name
      return .unary "CROSS JOIN" (.raw quoted)
  | .node (.aliased relation name) =>
    .ok (.unary "CROSS JOIN" (.aliased relation name))
  | .node node => .error (.unjoinable node.kindName)

/-- A query in parentheses under a name, and the table that its columns are
taken from. -/
def subquery (scope : Scope) (query : Node) (name : String) :
    ExprResult (Node × Table) := do
  let _ ← scope.quoting.identifier name
  return (.aliased (.group query) name, { name })

/-- `SELECT a, b FROM table`; the keys are qualified names, written bare. -/
def selectKeys (scope : Scope) (keys : List String) (table : String) :
    ExprResult Node := do
  if keys.isEmpty then throw .noSelectKeys
  match keys.find? fun key => (qualifiedParts? key).isNone with
  | some key => throw (.invalidSelectKey key)
  | none =>
    let quoted ← scope.quoting.tableName table
    return .raw ("SELECT " ++ joinWith ", " keys ++ " FROM " ++ quoted)

/-! ## Positions in arrays -/

/-- Read an integer of 64 bits: an optional sign and at least one digit. -/
def readId? (text : List Char) : Option Int :=
  let (negative, digits) := readSign text
  if digits.isEmpty || !digits.all isDigit then none
  else
    let value : Int := ofDigits digits
    let value := if negative then -value else value
    if -9223372036854775808 ≤ value ∧ value ≤ 9223372036854775807 then
      some value
    else none

/-- An id that is not quoted: a text without a cast becomes the integer that it
spells. -/
def bareId (id : Node) : ExprResult Node :=
  match id with
  | .literal (.text text) none =>
    match readId? (trim text).toList with
    | some value => .ok (.int value)
    | none => .error (.nonIntegerId text)
  | id => .ok id

/-- `array_position(ARRAY[…], x)`; unless `quoted`, texts among the ids become
integers. -/
def arrayPosition (scope : Scope) (ids : List Node) (column : ColumnRef)
    (quoted : Bool) : ExprResult Node := do
  let items ← if quoted then pure ids else ids.mapM bareId
  let array ← scope.config.array items
  return .call "array_position" [array, scope.column column]

/-- `idx(ARRAY[…], x)`, by default with the primary key. -/
def idx (scope : Scope) (ids : List Node) (column? : Option ColumnRef) :
    ExprResult Node := do
  let array ← scope.config.array ids
  let column :=
    match column? with
    | some column => scope.column column
    | none => scope.primaryKey
  return .call "idx" [array, column]

end Scope

end SqlExpr
