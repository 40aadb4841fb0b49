import SqlExpr.Calendar.DayText
import SqlExpr.Calendar.Timestamp
import SqlExpr.Node.Basic

/-!
# Arguments of queries

What a caller may pass for a table, a column or the target of a join, for the
direction of a sort, for a field of a date, and for a day or an interval.
-/

namespace SqlExpr

open SqlExpr.Calendar SqlExpr.Number SqlExpr.Text

/-! ## Tables and columns -/

/-- A table with its name and the name of its primary key. -/
structure Table where
  name : String
  primaryKey : String := "id"
  deriving DecidableEq, Inhabited, Repr

/-- A column of a table, qualified by the table's name. -/
def Table.column (table : Table) (name : String) : Node :=
  .column (some table.name) name

/-- A column, by its name in the table at hand or as a node. -/
inductive ColumnRef where
  | name (name : String)
  | node (node : Node)
  deriving Inhabited, Repr

/-- The node of a column; names are those of the given table. -/
def ColumnRef.resolve (table : Table) : ColumnRef → Node
  | .name given => table.column given
  | .node given => given

/-- What can be joined: a table by its name, or a relation with a name. -/
inductive JoinTarget where
  | name (name : String)
  | node (node : Node)
  deriving Inhabited, Repr

/-! ## Sort directions -/

/-- A sort direction. -/
inductive Direction where
  | asc
  | desc
  deriving DecidableEq, Repr

/-- The direction that a text names: after blanks it begins with `asc` or `desc`
in any case. -/
def Direction.read? (text : String) : Option Direction :=
  let letters := (trimLeft text.toList).map Char.toLower
  if ['a', 's', 'c'].isPrefixOf letters then some asc
  else if ['d', 'e', 's', 'c'].isPrefixOf letters then some desc
  else none

/-! ## Fields of dates -/

/-- A field of a date or time. -/
inductive DatePart where
  | year
  | quarter
  | month
  | week
  | day
  | dayOfWeek
  | dayOfYear
  | hour
  | minute
  | second
  | epoch
  deriving DecidableEq, Repr

/-- The keyword of a field. -/
def DatePart.keyword : DatePart → String
  | year => "YEAR"
  | quarter => "QUARTER"
  | month => "MONTH"
  | week => "WEEK"
  | day => "DAY"
  | dayOfWeek => "DOW"
  | dayOfYear => "DOY"
  | hour => "HOUR"
  | minute => "MINUTE"
  | second => "SECOND"
  | epoch => "EPOCH"

/-- All fields. -/
def DatePart.all : List DatePart :=
  [ .year, .quarter, .month, .week, .day, .dayOfWeek, .dayOfYear, .hour,
    .minute, .second, .epoch ]

/-- The field with a keyword, in any case. -/
def DatePart.ofKeyword? (keyword : String) : Option DatePart :=
  let upper := String.ofList (keyword.toList.map Char.toUpper)
  DatePart.all.find? fun part => part.keyword == upper

/-! ## Days and intervals -/

/-- A day, as a text, as a date, or as the day of a timestamp. -/
inductive DayRef where
  | text (text : String)
  | date (date : Date)
  | timestamp (timestamp : Timestamp)
  deriving DecidableEq, Repr

/-- The day that is meant. -/
def DayRef.resolve : DayRef → ExprResult Date
  | .text given =>
    let trimmed := trim given
    match DayText.read trimmed.toList with
    | .ok day => .ok day
    | .error fault => .error (.invalidDate trimmed fault.message)
  | .date given => .ok given
  | .timestamp given => .ok given.date

/-- The text of an interval, as it stands after `INTERVAL`. -/
structure Interval where
  text : String
  deriving DecidableEq, Inhabited, Repr

namespace Interval

/-- An interval of whole seconds. -/
def ofSeconds (seconds : Int) : Interval := ⟨integerText seconds⟩

/-- The whole seconds of a span. -/
def ofSpan (span : Span) : Interval := ofSeconds span.wholeSeconds

end Interval

end SqlExpr
