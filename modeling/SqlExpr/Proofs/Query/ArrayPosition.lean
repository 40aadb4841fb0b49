import Mathlib.Data.List.Forall2
import SqlExpr.Proofs.Node.Nesting
import SqlExpr.Proofs.Number.Digits
import SqlExpr.Proofs.Operator.Forms
import SqlExpr.Query.Scope
import SqlExpr.Render.Basic

/-!
# Ids that are not quoted

The ids of an array that are not quoted are never texts: a text that spells an
integer becomes this integer, and any other text is refused.  This is done for
the ids one by one, before the lists among them are opened to items of the
array, so it misses the texts that stand in such a list.
-/

namespace SqlExpr

open SqlExpr.Extension SqlExpr.Number SqlExpr.Text

/-! ## Texts of ids -/

/-- The texts of an integer: digits, and possibly a sign before them. -/
inductive SpellsInteger : List Char → Int → Prop where
  | unsigned {number : List Char} :
      IsNumber number → SpellsInteger number (ofDigits number)
  | positive {number : List Char} :
      IsNumber number → SpellsInteger ('+' :: number) (ofDigits number)
  | negative {number : List Char} :
      IsNumber number →
        SpellsInteger ('-' :: number) (-(ofDigits number : Int))

/-- The texts of an integer of 64 bits, possibly with blanks around it. -/
def SpellsId (text : String) (value : Int) : Prop :=
  SpellsInteger (trim text).toList value ∧
    -9223372036854775808 ≤ value ∧ value ≤ 9223372036854775807

theorem spellsInteger_iff {text : List Char} {value : Int} :
    SpellsInteger text value ↔
      IsNumber (readSign text).2 ∧
        (if (readSign text).1 then -(ofDigits (readSign text).2 : Int)
          else ofDigits (readSign text).2) = value := by
  constructor
  · intro spells
    cases spells with
    | unsigned isNumber =>
        have bare := readSign_of_digits isNumber.1 isNumber.2 []
        rw [List.append_nil] at bare
        rw [bare]
        exact ⟨isNumber, rfl⟩
    | positive isNumber => exact ⟨isNumber, rfl⟩
    | negative isNumber => exact ⟨isNumber, rfl⟩
  · rintro ⟨isNumber, rfl⟩
    unfold readSign at isNumber ⊢
    split at isNumber
    · exact .negative isNumber
    · exact .positive isNumber
    · exact .unsigned isNumber

theorem readId?_eq_some_iff {text : String} {value : Int} :
    Scope.readId? (trim text).toList = some value ↔ SpellsId text value := by
  unfold SpellsId
  rw [spellsInteger_iff]
  unfold Scope.readId?
  generalize readSign (trim text).toList = read
  obtain ⟨negative, number⟩ := read
  dsimp only
  generalize (if negative then -(ofDigits number : Int)
    else ofDigits number) = own
  by_cases isNumber : IsNumber number
  · have kept : (number.isEmpty || !number.all isDigit) = false := by
      simpa [IsNumber] using isNumber
    rw [kept, if_neg Bool.false_ne_true]
    by_cases fits : -9223372036854775808 ≤ own ∧ own ≤ 9223372036854775807
    · rw [if_pos fits, Option.some.injEq]
      constructor
      · rintro rfl
        exact ⟨⟨isNumber, rfl⟩, fits⟩
      · exact fun spells => spells.1.2
    · rw [if_neg fits]
      apply iff_of_false nofun
      rintro ⟨⟨-, rfl⟩, bounds⟩
      exact fits bounds
  · have refused : (number.isEmpty || !number.all isDigit) = true := by
      rw [← Bool.not_eq_false]
      simpa [IsNumber] using isNumber
    rw [refused, if_pos rfl]
    exact iff_of_false nofun fun spells => isNumber spells.1.1

/-! ## Single ids -/

/-- The text of a text literal without a cast. -/
def Node.bareText? : Node → Option String
  | .literal (.text text) none => some text
  | _ => none

/-- A text literal without a cast that spells no integer. -/
def Node.IsForeignId (node : Node) : Prop :=
  ∃ text, node.bareText? = some text ∧ ∀ value, ¬ SpellsId text value

/-- What an id that is not quoted stands for. -/
inductive IsBareId : Node → Node → Prop where
  | integer {text : String} {value : Int} :
      SpellsId text value → IsBareId (.text text) (.int value)
  | other {node : Node} : node.bareText? = none → IsBareId node node

section

variable {id item : Node} {ids items : List Node}

theorem Node.eq_text_of_bareText? {text : String}
    (known : id.bareText? = some text) : id = .text text := by
  unfold bareText? at known
  split at known
  · cases known
    rfl
  · cases known

/-- An id is replaced by what it stands for, or it is a text that spells no
integer and is refused. -/
theorem Scope.bareId_cases (id : Node) :
    (∃ item, Scope.bareId id = .ok item ∧ IsBareId id item ∧
      ¬ id.IsForeignId) ∨
      ∃ text, Scope.bareId id = .error (.nonIntegerId text) ∧
        id.IsForeignId := by
  cases bare : id.bareText? with
  | none =>
      left
      have kept : Scope.bareId id = .ok id := by
        unfold bareId
        split
        · cases bare
        · rfl
      refine ⟨id, kept, .other bare, ?_⟩
      rintro ⟨text, known, -⟩
      rw [bare] at known
      cases known
  | some text =>
      obtain rfl := Node.eq_text_of_bareText? bare
      cases read : readId? (trim text).toList with
      | none =>
          right
          refine ⟨text, ?_, text, rfl, ?_⟩
          · rw [Node.text, Node.ofValue, bareId, read]
          · intro value spells
            rw [← readId?_eq_some_iff, read] at spells
            cases spells
      | some value =>
          left
          have spells : SpellsId text value := readId?_eq_some_iff.mp read
          refine ⟨.int value, ?_, .integer spells, ?_⟩
          · rw [Node.text, Node.ofValue, bareId, read]
          · rintro ⟨other, same, foreign⟩
            cases same
            exact foreign value spells

theorem Scope.mapM_bareId_cases (ids : List Node) :
    (∃ items, ids.mapM Scope.bareId = .ok items ∧
      List.Forall₂ IsBareId ids items ∧ ∀ id ∈ ids, ¬ id.IsForeignId) ∨
      ∃ text, ids.mapM Scope.bareId = .error (.nonIntegerId text) ∧
        ∃ id ∈ ids, id.IsForeignId := by
  induction ids with
  | nil => exact .inl ⟨[], rfl, .nil, List.forall_mem_nil _⟩
  | cons id ids induction =>
      rw [List.mapM_cons]
      rcases bareId_cases id with
        ⟨item, read, bare, own⟩ | ⟨text, refused, foreign⟩
      · rw [read]
        rcases induction with
          ⟨items, others, bares, plain⟩ |
            ⟨text, refused, other, member, foreign⟩
        · rw [others]
          exact .inl ⟨item :: items, rfl, .cons bare bares,
            List.forall_mem_cons.mpr ⟨own, plain⟩⟩
        · rw [refused]
          exact .inr
            ⟨text, rfl, other, List.mem_cons_of_mem id member, foreign⟩
      · rw [refused]
        exact .inr ⟨text, rfl, id, List.mem_cons_self, foreign⟩

/-! ## Lists among ids -/

theorem isBareId_self_iff : IsBareId id id ↔ id.bareText? = none := by
  constructor
  · intro bare
    cases bare
    assumption
  · exact .other

/-- An id and what it stands for are opened to as many items, which stand for
one another exactly if the id is no list with a text in it. -/
theorem IsBareId.flatten_iff (bare : IsBareId id item) :
    (flatten id).length = (flatten item).length ∧
      (List.Forall₂ IsBareId (flatten id) (flatten item) ↔
        (id.isList → ∀ node ∈ flatten id, node.bareText? = none)) := by
  cases bare with
  | integer spells =>
      exact ⟨rfl, iff_of_true (.cons (.integer spells) .nil) nofun⟩
  | other own =>
      refine ⟨rfl, ?_⟩
      simp only [List.forall₂_same, isBareId_self_iff]
      constructor
      · exact fun bare _ => bare
      · intro lists node member
        cases opened : id.isList with
        | true => exact lists opened node member
        | false =>
            rw [Node.flatten_of_not_isList opened,
              List.mem_singleton] at member
            rwa [member]

theorem forall₂_append_iff {α β : Type} {relation : α → β → Prop}
    {first more : List α} {second others : List β}
    (length : first.length = second.length) :
    List.Forall₂ relation (first ++ more) (second ++ others) ↔
      List.Forall₂ relation first second ∧
        List.Forall₂ relation more others := by
  constructor
  · intro related
    have front := List.forall₂_take_append _ _ _ related
    have back := List.forall₂_drop_append _ _ _ related
    rw [← length, List.take_left] at front
    rw [← length, List.drop_left] at back
    exact ⟨front, back⟩
  · rintro ⟨front, back⟩
    exact List.rel_append front back

/-- No text stands in a list among the ids. -/
def NoListedText (ids : List Node) : Prop :=
  ∀ id ∈ ids, id.isList → ∀ node ∈ flatten id, node.bareText? = none

/-- Opening the lists among ids and replacing each id by what it stands for
can be done in either order exactly if no text is in a list. -/
theorem forall₂_flattenAll_iff (bares : List.Forall₂ IsBareId ids items) :
    List.Forall₂ IsBareId (flattenAll ids) (flattenAll items) ↔
      NoListedText ids := by
  induction bares with
  | nil => exact iff_of_true .nil (List.forall_mem_nil _)
  | cons bare _ induction =>
      obtain ⟨length, first⟩ := bare.flatten_iff
      rw [flattenAll, flattenAll, forall₂_append_iff length, first, induction,
        NoListedText, NoListedText, List.forall_mem_cons]

theorem exists_flatten_of_mem (member : item ∈ flattenAll ids) :
    ∃ id ∈ ids, item ∈ flatten id := by
  induction ids with
  | nil => cases member
  | cons id ids induction =>
      rcases List.mem_append.mp member with first | later
      · exact ⟨id, List.mem_cons_self, first⟩
      · obtain ⟨other, found, inside⟩ := induction later
        exact ⟨other, List.mem_cons_of_mem id found, inside⟩

theorem mem_flattenAll (member : id ∈ ids) (inside : item ∈ flatten id) :
    item ∈ flattenAll ids := by
  induction ids with
  | nil => cases member
  | cons first others induction =>
      rw [flattenAll, List.mem_append]
      rcases List.mem_cons.mp member with rfl | later
      · exact .inl inside
      · exact .inr (induction later)

theorem Node.IsForeignId.isList (foreign : id.IsForeignId) :
    id.isList = false := by
  obtain ⟨text, known, -⟩ := foreign
  rw [eq_text_of_bareText? known]
  rfl

/-- Without texts in lists, the texts that spell no integer are among the ids
themselves. -/
theorem exists_foreign_flattenAll_iff
    (plain : (∃ id ∈ ids, id.IsForeignId) ∨ NoListedText ids) :
    (∃ item ∈ flattenAll ids, item.IsForeignId) ↔
      ∃ id ∈ ids, id.IsForeignId := by
  constructor
  · rintro ⟨item, member, foreign⟩
    rcases plain with own | plain
    · exact own
    · obtain ⟨id, found, inside⟩ := exists_flatten_of_mem member
      cases opened : id.isList with
      | true =>
          obtain ⟨text, known, -⟩ := foreign
          rw [plain id found opened item inside] at known
          cases known
      | false =>
          rw [Node.flatten_of_not_isList opened, List.mem_singleton] at inside
          rw [inside] at foreign
          exact ⟨id, found, foreign⟩
  · rintro ⟨id, found, foreign⟩
    refine ⟨id, mem_flattenAll found ?_, foreign⟩
    rw [Node.flatten_of_not_isList foreign.isList]
    exact List.mem_singleton_self id

end

/-! ## Positions in an array -/

namespace Scope

variable {scope : Scope} {ids items : List Node} {column : ColumnRef}

/-- The position of a column in an array of the given items. -/
def positionCall (scope : Scope) (items : List Node) (column : ColumnRef) :
    Node :=
  .call "array_position" [.unary arrayKind (.list items), scope.column column]

/-- What is promised of ids that are not quoted: an item that is a text becomes
the integer that it spells, and the ids are refused if one spells none. -/
structure BaresItems (scope : Scope) (ids : List Node) (column : ColumnRef) :
    Prop where
  refused : (∃ cause,
    scope.arrayPosition ids column false = .error (.validation cause)) ↔
      ∃ item ∈ flattenAll ids, item.IsForeignId
  bare : ∀ node, scope.arrayPosition ids column false = .ok node →
    ∃ items, List.Forall₂ IsBareId (flattenAll ids) items ∧
      node = scope.positionCall items column

/-- A configuration that has the arrays of the extension. -/
def HasArrays (config : Config) : Prop :=
  config.operators.get? arrayKind = some (arrayDefinition "]")

theorem array_eq (arrays : HasArrays scope.config) (items : List Node) :
    scope.config.array items =
      .ok (.unary arrayKind (.list (flattenAll items))) :=
  Registry.unary_array rfl arrays (.many items)

theorem arrayPosition_cases (arrays : HasArrays scope.config)
    (ids : List Node) (column : ColumnRef) :
    (∃ items, List.Forall₂ IsBareId ids items ∧
      (∀ id ∈ ids, ¬ id.IsForeignId) ∧
      scope.arrayPosition ids column false =
        .ok (scope.positionCall (flattenAll items) column)) ∨
      ∃ text, (∃ id ∈ ids, id.IsForeignId) ∧
        scope.arrayPosition ids column false =
          .error (.nonIntegerId text) := by
  unfold arrayPosition
  rw [if_neg Bool.false_ne_true]
  rcases mapM_bareId_cases ids with
    ⟨items, read, bares, plain⟩ | ⟨text, refused, foreign⟩
  · refine .inl ⟨items, bares, plain, ?_⟩
    rw [read]
    change (scope.config.array items >>= _) = _
    rw [array_eq arrays]
    rfl
  · refine .inr ⟨text, foreign, ?_⟩
    rw [refused]
    rfl

/-- The promise about ids that are not quoted is kept exactly if one of the ids
is a text that spells no integer, or if there is no text in a list among
them. -/
theorem baresItems_iff (arrays : HasArrays scope.config) :
    scope.BaresItems ids column ↔
      (∃ id ∈ ids, id.IsForeignId) ∨ NoListedText ids := by
  rcases arrayPosition_cases arrays ids column with
    ⟨items, bares, plain, success⟩ | ⟨text, foreign, failure⟩
  · have none : ¬ ∃ id ∈ ids, id.IsForeignId := by
      rintro ⟨id, member, foreign⟩
      exact plain id member foreign
    rw [← forall₂_flattenAll_iff bares]
    constructor
    · intro promise
      obtain ⟨others, related, same⟩ := promise.bare _ success
      have equal : flattenAll items = others := by
        simpa [positionCall] using same
      rw [equal]
      exact .inr related
    · intro kept
      have related := kept.resolve_left none
      constructor
      · rw [success, exists_foreign_flattenAll_iff
          (.inr ((forall₂_flattenAll_iff bares).mp related))]
        exact iff_of_false nofun none
      · intro node found
        rw [success] at found
        cases found
        exact ⟨flattenAll items, related, rfl⟩
  · apply iff_of_true
    · constructor
      · rw [failure, exists_foreign_flattenAll_iff (.inl foreign)]
        exact iff_of_true ⟨_, rfl⟩ foreign
      · intro node found
        rw [failure] at found
        cases found
    · exact .inl foreign

/-- A text in a list is not seen, and is written in quotes. -/
theorem not_baresItems_of_listed_text :
    let noon : Calendar.Timestamp :=
      ⟨⟨2024, 3, 15, by decide⟩, ⟨12, 0, 0, 0, by decide⟩⟩
    let scope : Scope := ⟨{ name := "articles" }, .postgres, none, noon⟩
    let ids : List Node := [.list [.text "a"]]
    scope.arrayPosition ids (.name "x") false =
        .ok (scope.positionCall [.text "a"] (.name "x")) ∧
      scope.config.render (scope.positionCall [.text "a"] (.name "x")) =
        .ok "array_position(ARRAY['a'], \"articles\".\"x\")" ∧
      ¬ scope.BaresItems ids (.name "x") := by
  intro noon scope ids
  have arrays : HasArrays scope.config := rfl
  have built : scope.positionCall [.text "a"] (.name "x") =
      .call "array_position" [.unary arrayKind (.list [.text "a"]),
        .column (some "articles") "x"] := rfl
  refine ⟨rfl, ?_, ?_⟩
  · rw [built]
    rfl
  · rw [baresItems_iff arrays]
    rintro (⟨id, member, text, known, -⟩ | plain)
    · rw [List.mem_singleton] at member
      rw [member] at known
      cases known
    · have own := plain (.list [.text "a"]) List.mem_cons_self rfl
        (.text "a") List.mem_cons_self
      cases own

end Scope

end SqlExpr
