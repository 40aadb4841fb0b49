import SqlExpr.Query.Argument
import SqlExpr.Query.Scope

/-!
# Date predicates

Conditions on a column that holds dates or times.
-/

namespace SqlExpr.Scope

open SqlExpr.Calendar SqlExpr.Number

/-- `x <= t` -/
def before (scope : Scope) (column : ColumnRef) (t : Node) : Node :=
  (scope.column column).ltEq t

/-- `x >= t` -/
def after (scope : Scope) (column : ColumnRef) (t : Node) : Node :=
  (scope.column column).gtEq t

/-- `x BETWEEN low AND high` -/
def within (scope : Scope) (column : ColumnRef) (low high : Node) : Node :=
  (scope.column column).between low high

def timestampNode (timestamp : Timestamp) : Node :=
  .ofValue (.timestamp timestamp)

/-- The current time as a literal. -/
def nowNode (scope : Scope) : Node := .ofValue (.timestampTz scope.now)

/-- From the first instant of a year to its last microsecond. -/
def inYear (scope : Scope) (column : ColumnRef) (year : Int) :
    ExprResult Node :=
  match Date.ofParts? year 1 1, Date.ofParts? year 12 31 with
  | some first, some last =>
    .ok (scope.within column (timestampNode (.midnight first))
      (timestampNode (.endOfDay last)))
  | _, _ => .error (.yearOutOfRange (integerText year))

/-- From the beginning of the day that lies a span before the current time. -/
def since (scope : Scope) (column : ColumnRef) (ago : Span) :
    ExprResult Node :=
  match scope.now.dayBefore? ago with
  | some day => .ok (scope.after column (timestampNode (.midnight day)))
  | none => .error (.durationOutOfRange ago.text)

def beforeNow (scope : Scope) (column : ColumnRef) : Node :=
  scope.before column scope.nowNode

def afterNow (scope : Scope) (column : ColumnRef) : Node :=
  scope.after column scope.nowNode

/-- `CURRENT_TIMESTAMP - INTERVAL '…'` -/
def intervalAgo (interval : Interval) : Node :=
  (Node.raw "CURRENT_TIMESTAMP").minus
    (.unary "INTERVAL" (.text interval.text))

def beforeInterval (scope : Scope) (column : ColumnRef) (interval : Interval) :
    Node :=
  scope.before column (intervalAgo interval)

def afterInterval (scope : Scope) (column : ColumnRef) (interval : Interval) :
    Node :=
  scope.after column (intervalAgo interval)

/-- `(x IS NULL OR x <= t)` -/
def nullOrBefore (scope : Scope) (column : ColumnRef) (t : Node) : Node :=
  (scope.isNull column).or (scope.before column t)

/-- `(x IS NULL OR x >= t)` -/
def nullOrAfter (scope : Scope) (column : ColumnRef) (t : Node) : Node :=
  (scope.isNull column).or (scope.after column t)

def nullOrBeforeNow (scope : Scope) (column : ColumnRef) : Node :=
  scope.nullOrBefore column scope.nowNode

def nullOrAfterNow (scope : Scope) (column : ColumnRef) : Node :=
  scope.nullOrAfter column scope.nowNode

/-- From the first instant of a day to its last microsecond. -/
def onDay (scope : Scope) (column : ColumnRef) (day : DayRef) :
    ExprResult Node := do
  let date ← day.resolve
  return (scope.after column (timestampNode (.midnight date))).and
    (scope.before column (timestampNode (.endOfDay date)))

/-- The rows that come before a date and id in the order by column and primary
key: `(x < date OR x = date AND key < id)`. -/
def earlierEntries (scope : Scope) (column : ColumnRef) (date id : Node) :
    Node :=
  let column := scope.column column
  (column.lt date).or ((column.eq date).and (scope.primaryKey.lt id))

/-- The rows that come after a date and id in the same order. -/
def laterEntries (scope : Scope) (column : ColumnRef) (date id : Node) :
    Node :=
  let column := scope.column column
  (column.gt date).or ((column.eq date).and (scope.primaryKey.gt id))

end SqlExpr.Scope
