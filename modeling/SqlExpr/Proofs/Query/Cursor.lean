import Mathlib.Data.Int.Order.Basic
import Mathlib.Data.Prod.Lex
import SqlExpr.Proofs.Query.Column
import SqlExpr.Query.Dates

/-!
# Entries before and after a date and id

Rows are ordered by a column, and where its values are equal by the primary
key.  A date and an id mean a place in this order.  The rows whose place comes
before it are those that are earlier, and those whose place comes after it are
later, whatever ordered types the column and the key have; so no row is left
out between the two, and none is in both.
-/

namespace SqlExpr.Scope

open SqlExpr.Grammar SqlExpr.Lexis

variable {scope : Scope} {schema : Schema}

/-- A column that the rows are ordered by, before the primary key, whose name
can be written as well. -/
structure Listing (scope : Scope) where
  column : scope.NamedColumn
  keyValid : scope.config.IsValid scope.primaryKey

namespace Listing

variable (listing : scope.Listing)

def key : scope.NamedColumn :=
  .ofName scope scope.table.primaryKey listing.keyValid

/-- Pairs of what the column and the key can hold, in the order of the rows. -/
abbrev Place (schema : Schema) : Type :=
  schema.Carrier listing.column.tokens ×ₗ schema.Carrier listing.key.tokens

/-- The place of a row, unless the column or the key is null. -/
def place? (row : schema.Row) : Option (listing.Place schema) := do
  return toLex (← row listing.column.tokens, ← row listing.key.tokens)

variable {listing} {row : schema.Row} {place : listing.Place schema}

theorem holds_of_place? (own : listing.place? row = some place) :
    row listing.column.tokens = some (ofLex place).1 ∧
      row listing.key.tokens = some (ofLex place).2 := by
  unfold place? at own
  cases column : row listing.column.tokens with
  | none => simp [column] at own
  | some x =>
      cases key : row listing.key.tokens with
      | none => simp [column, key] at own
      | some y =>
          simp only [column, key] at own
          cases own
          exact ⟨rfl, rfl⟩

/-- A date and an id that can be written, with the place that they mean. -/
structure Cursor (listing : scope.Listing) (schema : Schema) where
  date : Value
  id : Value
  place : listing.Place schema
  dateWritable : date.IsWritable
  dateNotNull : date.isNull = false
  dateRead : schema.read? listing.column.tokens
    ((Part.value date).tokens scope.config) = some (ofLex place).1
  idWritable : id.IsWritable
  idNotNull : id.isNull = false
  idRead : schema.read? listing.key.tokens
    ((Part.value id).tokens scope.config) = some (ofLex place).2

namespace Cursor

variable (cursor : listing.Cursor schema)

def earlier : Node :=
  scope.earlierEntries listing.column.column (.ofValue cursor.date)
    (.ofValue cursor.id)

def later : Node :=
  scope.laterEntries listing.column.column (.ofValue cursor.date)
    (.ofValue cursor.id)

/-- The rows whose place compares to that of the cursor in some way. -/
def entries (kind : String) : Node :=
  let column := scope.column listing.column.column
  (Node.binary kind column (.ofValue cursor.date)).or
    ((column.eq (.ofValue cursor.date)).and
      (.binary kind (scope.column listing.key.column) (.ofValue cursor.id)))

theorem earlier_eq_entries : cursor.earlier = cursor.entries "<" := rfl

theorem later_eq_entries : cursor.later = cursor.entries ">" := rfl

variable {kind : String} {operator : BinaryOperator}

theorem isCondition_entries
    (named : BinaryOperator.ofKind? kind = some operator)
    (compares : operator.precedence = .comparison) :
    (cursor.entries kind).IsCondition := by
  have equal : BinaryOperator.ofKind? "=" = some .eq := rfl
  apply Node.IsCondition.group
  apply Node.IsCondition.chain rfl rfl
  · exact listing.column.isCondition_comparison named compares
  · apply Node.IsCondition.chain rfl rfl
    · exact listing.column.isCondition_comparison equal rfl
    · exact listing.key.isCondition_comparison named compares

theorem isValid_entries
    (named : BinaryOperator.ofKind? kind = some operator) :
    (cursor.entries kind).All scope.config.IsValid := by
  have equal : BinaryOperator.ofKind? "=" = some .eq := rfl
  have byDate := listing.column.isValid_comparison named cursor.dateWritable
  have onDate := listing.column.isValid_comparison equal cursor.dateWritable
  have byKey := listing.key.isValid_comparison named cursor.idWritable
  exact Node.All.group.mpr ⟨trivial, Node.All.binary.mpr ⟨.inl rfl, byDate,
    Node.All.binary.mpr ⟨.inl rfl, onDate, byKey⟩⟩⟩

/-- The entries are told by the column, and by the key where the column holds
the date itself. -/
theorem truth?_entries (row : schema.Row)
    (named : BinaryOperator.ofKind? kind = some operator)
    (compares : operator.precedence = .comparison) :
    scope.config.truth? row (cursor.entries kind) = do
      let column := row listing.column.tokens
      let key := row listing.key.tokens
      return (← operator.truth? column (ofLex cursor.place).1).or
        ((← BinaryOperator.truth? column (ofLex cursor.place).1 .eq).and
          (← operator.truth? key (ofLex cursor.place).2)) := by
  have equal : BinaryOperator.ofKind? "=" = some .eq := rfl
  have byDate {kind : String} {operator : BinaryOperator}
      (named : BinaryOperator.ofKind? kind = some operator)
      (compares : operator.precedence = .comparison) :
      (scope.config.term (.binary kind (scope.column listing.column.column)
        (.ofValue cursor.date))).truth? row =
          operator.truth? (row listing.column.tokens)
            (ofLex cursor.place).1 := by
    rw [listing.column.truth?_comparison named compares cursor.dateNotNull]
    exact Schema.Row.compare?_of_read? cursor.dateRead
  have byKey : (scope.config.term (.binary kind
      (scope.column listing.key.column) (.ofValue cursor.id))).truth? row =
        operator.truth? (row listing.key.tokens) (ofLex cursor.place).2 := by
    rw [listing.key.truth?_comparison named compares cursor.idNotNull]
    exact Schema.Row.compare?_of_read? cursor.idRead
  rw [scope.config.truth?_of_condition
    (cursor.isCondition_entries named compares)
    (cursor.isValid_entries named)]
  simp only [entries, Node.eq, Config.truth?_term_or, Config.truth?_term_and,
    byDate named compares, byDate equal rfl, byKey, bind_assoc, pure_bind]

/-- The earlier entries are those whose place is before that of the cursor. -/
theorem truth?_earlier (own : listing.place? row = some place) :
    scope.config.truth? row cursor.earlier =
      some (.ofBool (place < cursor.place)) := by
  obtain ⟨column, key⟩ := holds_of_place? own
  rw [earlier_eq_entries, cursor.truth?_entries row rfl rfl, column, key]
  simp [BinaryOperator.truth?, Prod.Lex.lt_iff]

theorem truth?_later (own : listing.place? row = some place) :
    scope.config.truth? row cursor.later =
      some (.ofBool (cursor.place < place)) := by
  obtain ⟨column, key⟩ := holds_of_place? own
  rw [later_eq_entries, cursor.truth?_entries row rfl rfl, column, key]
  simp [BinaryOperator.truth?, Prod.Lex.lt_iff, eq_comm]

end Cursor

/-- Every row whose column and key are not null is earlier than a cursor, or
later, or has its place, and only one of these; and a row is earlier than
another one's place exactly if the other one is later than its own. -/
theorem entries_trichotomy (listing : scope.Listing) (schema : Schema) :
    (∀ (cursor : listing.Cursor schema) (row : schema.Row)
        (place : listing.Place schema), listing.place? row = some place →
      let earlier := scope.config.truth? row cursor.earlier
      let later := scope.config.truth? row cursor.later
      earlier = some (.ofBool (place < cursor.place)) ∧
        later = some (.ofBool (place > cursor.place)) ∧
        (earlier = some .yes ∨ later = some .yes ∨ place = cursor.place) ∧
        ¬ (earlier = some .yes ∧ later = some .yes) ∧
        ¬ (earlier = some .yes ∧ place = cursor.place) ∧
        ¬ (later = some .yes ∧ place = cursor.place)) ∧
    ∀ (first second : listing.Cursor schema) (row other : schema.Row),
      listing.place? row = some first.place →
      listing.place? other = some second.place →
        (scope.config.truth? row second.earlier = some .yes ↔
          scope.config.truth? other first.later = some .yes) := by
  constructor
  · intro cursor row place own earlier later
    have before : earlier = some (.ofBool (place < cursor.place)) :=
      cursor.truth?_earlier own
    have behind : later = some (.ofBool (place > cursor.place)) :=
      cursor.truth?_later own
    refine ⟨before, behind, ?_⟩
    rw [before, behind]
    simp only [Option.some.injEq, Truth.ofBool_eq_yes_iff, decide_eq_true_eq]
    refine ⟨?_, ?_, ?_, ?_⟩
    · rcases lt_trichotomy place cursor.place with less | same | greater
      · exact .inl less
      · exact .inr (.inr same)
      · exact .inr (.inl greater)
    · rintro ⟨less, greater⟩
      exact lt_asymm less greater
    · rintro ⟨less, same⟩
      exact less.ne same
    · rintro ⟨greater, same⟩
      exact greater.ne' same
  · intro first second row other own otherOwn
    rw [second.truth?_earlier own, first.truth?_later otherOwn]

/-- Columns of whole numbers, with days as numbers of eight digits. -/
def dayNumbers : Schema where
  Carrier _ := Int
  order _ := inferInstance
  read? _ literal :=
    match literal with
    | [.number digits] => Term.numeralValue? digits
    | [.text day] =>
      Term.numeralValue? (String.ofList (day.toList.filter (· ≠ '-')))
    | _ => none

/-- Of two rows of one day, the one with the smaller key is earlier. -/
theorem entries_trichotomy_same_day :
    let noon : Calendar.Timestamp :=
      ⟨⟨2024, 3, 15, by decide⟩, ⟨12, 0, 0, 0, by decide⟩⟩
    let scope : Scope := ⟨{ name := "a" }, .postgres, none, noon⟩
    let condition (id : Int) : Node := scope.earlierEntries (.name "c")
      (.ofValue (.date ⟨2024, 3, 15, by decide⟩)) (.int id)
    let row : dayNumbers.Row := fun column =>
      if column = [.name "a", .mark '.', .name "id"] then some (7 : Int)
      else some (20240315 : Int)
    scope.config.truth? row (condition 8) = some .yes ∧
      scope.config.truth? row (condition 7) = some .no := by
  intro noon scope condition row
  let listing : scope.Listing := {
    column := .ofName scope "c" ⟨by rintro _ ⟨⟩; decide, by decide⟩
    keyValid := ⟨by rintro _ ⟨⟩; decide, by decide⟩ }
  have column : listing.column.tokens =
      [.name "a", .mark '.', .name "c"] := by decide
  have key : listing.key.tokens =
      [.name "a", .mark '.', .name "id"] := by decide
  have day : dayNumbers.read? listing.column.tokens
      [.text (Calendar.Date.text ⟨2024, 3, 15, by decide⟩)] =
        some (20240315 : Int) := rfl
  let cursor (id : Int) (read : dayNumbers.read? listing.key.tokens
      (integerTokens id) = some id) :
      listing.Cursor dayNumbers := {
    date := .date ⟨2024, 3, 15, by decide⟩
    id := .int id
    place := toLex ((20240315 : Int), id)
    dateWritable := trivial
    dateNotNull := rfl
    dateRead := by rw [Config.tokens_quoted rfl, day]; rfl
    idWritable := trivial
    idNotNull := rfl
    idRead := by rw [Config.tokens_integer, read]; rfl }
  have own : listing.place? row = some (cursor 7 rfl).place := by
    simp only [place?, row, column, key]
    rfl
  have before : (cursor 7 rfl).place < (cursor 8 rfl).place :=
    Prod.Lex.toLex_lt_toLex.mpr (.inr ⟨rfl, Int.lt_succ 7⟩)
  have settled := (entries_trichotomy listing dayNumbers).1
  obtain ⟨next, _⟩ := settled (cursor 8 rfl) row _ own
  obtain ⟨same, _⟩ := settled (cursor 7 rfl) row _ own
  constructor
  · exact next.trans (by rw [decide_eq_true before]; rfl)
  · exact same.trans (by rw [decide_eq_false (lt_irrefl _)]; rfl)

end Listing

end SqlExpr.Scope
