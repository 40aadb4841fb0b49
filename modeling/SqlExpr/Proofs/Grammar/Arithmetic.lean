import SqlExpr.Proofs.Grammar.Operands
import SqlExpr.Proofs.Grammar.RoundTrip

/-!
# Renderings and the values of arithmetic expressions

The text of an arithmetic expression has the expression's value if no product
takes in another one that begins with a quotient.  This is also needed: an
expression in which some product does so has another value than its text for
some integers in place of its leaves.  All operands around the product are
chosen so that they pass its value on.
-/

namespace SqlExpr

open SqlExpr.Grammar SqlExpr.Lexis

/-! ## Expressions of one shape -/

/-- Expressions that differ in nothing but their integers and columns. -/
inductive Node.SameShape : Node → Node → Prop where
  | leaf {first second : Node} (firstLeaf : first.IsLeaf)
      (secondLeaf : second.IsLeaf) : SameShape first second
  | operation {kind : String} {operator : BinaryOperator}
      {left right otherLeft otherRight : Node}
      (named : BinaryOperator.ofKind? kind = some operator)
      (arithmetic : operator.isArithmetic)
      (leftShape : SameShape left otherLeft)
      (rightShape : SameShape right otherRight) :
      SameShape (.binary kind left right) (.binary kind otherLeft otherRight)
  | group {inner other : Node} (shape : SameShape inner other) :
      SameShape (.group inner) (.group other)

namespace Node.SameShape

variable {first second : Node}

theorem refl (arithmetic : first.IsArithmetic) : first.SameShape first := by
  induction arithmetic with
  | leaf leaf => exact .leaf leaf leaf
  | operation named arithmetic _ _ left right =>
      exact .operation named arithmetic left right
  | group _ inner => exact .group inner

theorem isArithmetic (shape : first.SameShape second) :
    second.IsArithmetic := by
  induction shape with
  | leaf _ leaf => exact .leaf leaf
  | operation named arithmetic _ _ left right =>
      exact .operation named arithmetic left right
  | group _ inner => exact .group inner

theorem isBinaryOf (shape : first.SameShape second)
    (operator : BinaryOperator) :
    second.isBinaryOf operator = first.isBinaryOf operator := by
  cases shape with
  | leaf firstLeaf secondLeaf => cases firstLeaf <;> cases secondLeaf <;> rfl
  | operation | group => rfl

theorem beginsWithQuotient (shape : first.SameShape second) :
    second.beginsWithQuotient = first.beginsWithQuotient := by
  induction shape with
  | leaf firstLeaf secondLeaf => cases firstLeaf <;> cases secondLeaf <;> rfl
  | operation _ _ _ _ left _ =>
      simp only [Node.beginsWithQuotient, left]
  | group => rfl

theorem keepsQuotients (shape : first.SameShape second)
    (keeps : first.KeepsQuotients) : second.KeepsQuotients := by
  induction shape with
  | leaf _ leaf =>
      cases leaf with
      | integer value => exact Node.All.literal.mpr rfl
      | column table? name => exact Node.All.column.mpr rfl
  | operation named arithmetic leftShape rightShape left right =>
      obtain ⟨own, leftKeeps, rightKeeps⟩ := Node.All.binary.mp keeps
      refine Node.All.binary.mpr ⟨?_, left leftKeeps, right rightKeeps⟩
      simpa only [Node.mergesQuotient, rightShape.isBinaryOf,
        rightShape.beginsWithQuotient] using own
  | group _ inner =>
      exact Node.All.group.mpr ⟨rfl, inner (Node.All.group.mp keeps).2⟩

end Node.SameShape

namespace Config

variable {config : Config} {columns : List Token → Int} {node : Node}

/-! ## Integers in place of the leaves -/

/-- An expression of the same shape that can be written. -/
structure Replaces (config : Config) (node other : Node) : Prop where
  shape : node.SameShape other
  written : ∀ position, Part.AllWritten config (config.partsAt position other)

namespace Replaces

theorem integer (leaf : node.IsLeaf) (value : Int) :
    config.Replaces node (.literal (.int value) none) where
  shape := .leaf leaf (.integer value)
  written position := by
    rw [partsAt]
    exact Position.allWritten_placed (List.forall_mem_singleton.mpr ⟨_, rfl⟩)

theorem operation {kind : String} {operator : BinaryOperator}
    {left right otherLeft otherRight : Node}
    (named : BinaryOperator.ofKind? kind = some operator)
    (arithmetic : operator.isArithmetic)
    (leftReplaces : config.Replaces left otherLeft)
    (rightReplaces : config.Replaces right otherRight) :
    config.Replaces (.binary kind left right)
      (.binary kind otherLeft otherRight) where
  shape := .operation named arithmetic leftReplaces.shape rightReplaces.shape
  written position := by
    have apart : operator ≠ .between := by
      rintro rfl
      cases arithmetic
    rw [partsAt_operator named
      (BinaryOperator.not_isConnective_of_isArithmetic arithmetic),
      BinaryOperator.not_testsNull_of_isArithmetic arithmetic]
    simp only [Bool.false_and, Bool.false_eq_true, ↓reduceIte, apart]
    refine Position.allWritten_placed (List.forall_mem_append.mpr
      ⟨leftReplaces.written _, List.forall_mem_cons.mpr ⟨⟨_, rfl⟩, ?_⟩⟩)
    exact rightReplaces.written _

theorem group {inner other : Node} (replaces : config.Replaces inner other) :
    config.Replaces (.group inner) (.group other) where
  shape := .group replaces.shape
  written position := by
    rw [partsAt]
    split
    · exact replaces.written position
    · refine Position.allWritten_placed (List.forall_mem_cons.mpr
        ⟨⟨_, rfl⟩, List.forall_mem_append.mpr ⟨replaces.written _, ?_⟩⟩)
      exact List.forall_mem_singleton.mpr ⟨_, rfl⟩

theorem exists_render {other : Node} (replaces : config.Replaces node other) :
    ∃ text, config.render other = .ok text := by
  simp only [render_eq_ok_iff]
  exact (replaces.written .free).exists_write

end Replaces

/-! ## Operands around a product -/

/-- An expression that is read with the same value that it has, and that passes
on what stands before it if that value is one. -/
structure Settles (config : Config) (columns : List Token → Int)
    (value : Int) (node other : Node) : Prop
    extends config.Replaces node other where
  tree : config.value? columns other = some value
  text : (config.reading other).value? columns = some value
  passes : value = 1 → Passes columns .multiply (config.reading other)

section Operands

variable {kind : String} {operator : BinaryOperator} {left right : Node}

theorem Settles.passes_operand {other : Node}
    (settles : config.Settles columns operator.neutral node other)
    (isArithmetic : operator.isArithmetic) :
    Passes columns operator (config.operandReading operator true other) := by
  refine passes_operandReading settles.shape.isArithmetic isArithmetic
    settles.text ?_
  rintro rfl
  exact settles.passes rfl

theorem Settles.passes_one {other : Node}
    (settles : config.Settles columns 1 node other) {onRight : Bool} :
    Passes columns .multiply (config.operandReading operator onRight other) :=
  (settles.passes rfl).enclosed settles.text

theorem exists_settles (config : Config) (columns : List Token → Int)
    (arithmetic : node.IsArithmetic) (value : Int) :
    ∃ other, config.Settles columns value node other := by
  induction arithmetic generalizing value with
  | leaf leaf =>
      have own : (config.reading (.literal (.int value) none)).value? columns =
          some value := atomValue?_integer value
      refine ⟨.literal (.int value) none, .integer leaf value, rfl, own, ?_⟩
      rintro rfl
      exact passes_of_rank_ne (Nat.ne_of_lt (Nat.lt_succ_self _)) rfl own
  | group _ inner =>
      obtain ⟨other, settles⟩ := inner value
      refine ⟨.group other, settles.toReplaces.group, settles.tree,
        settles.text, ?_⟩
      rintro rfl
      exact passes_of_rank_ne (Nat.ne_of_lt (Nat.lt_succ_self _)) rfl
        settles.text
  | @operation kind operator left right named arithmetic _ _ leftSettles
      rightSettles =>
      obtain ⟨first, left⟩ := leftSettles value
      obtain ⟨second, right⟩ := rightSettles operator.neutral
      have passes := right.passes_operand arithmetic
      have read : config.reading (.binary kind first second) = _ :=
        reading_operation named arithmetic left.shape.isArithmetic
          right.shape.isArithmetic
      have text : (config.reading (.binary kind first second)).value?
          columns = some value := by
        rw [read, passes, value?_operandReading, left.text]
      refine ⟨.binary kind first second,
        .operation named arithmetic left.toReplaces right.toReplaces, ?_, text,
        ?_⟩
      · rw [value?_operation named, left.tree, right.tree]
        exact BinaryOperator.compute?_neutral arithmetic value
      · rintro rfl
        by_cases precedence : operator.precedence = .multiplicative
        · intro before
          rw [graft_reading_operation named arithmetic precedence
            left.shape.isArithmetic right.shape.isArithmetic, passes]
          exact left.passes_one before
        · refine passes_of_rank_ne (fun same => precedence ?_) rfl text
          rw [read, Term.rank_graft] at same
          exact Precedence.rank_injective same.symm

/-- An expression that begins with a quotient of one and two: it has the value
zero, and brings a two in front of it to one. -/
structure Halves (config : Config) (columns : List Token → Int)
    (node other : Node) : Prop extends config.Replaces node other where
  tree : config.value? columns other = some 0
  text : ∀ before : Term, before.value? columns = some 2 →
    (Term.graft Term.sharesRank (.core .multiply) before
      (config.reading other)).value? columns = some 1

theorem exists_halves (config : Config) (columns : List Token → Int)
    (arithmetic : node.IsArithmetic)
    (begins : node.beginsWithQuotient) :
    ∃ other, config.Halves columns node other := by
  induction arithmetic with
  | leaf leaf => cases leaf <;> cases begins
  | group => cases begins
  | @operation kind operator left right named arithmetic leftArithmetic
      rightArithmetic leftHalves _ =>
      simp only [Node.beginsWithQuotient, named] at begins
      split at begins
      next divide =>
        cases divide
        obtain ⟨first, left⟩ :=
          exists_settles config columns leftArithmetic 1
        obtain ⟨second, right⟩ :=
          exists_settles config columns rightArithmetic 2
        refine ⟨.binary kind first second,
          .operation named rfl left.toReplaces right.toReplaces, ?_, ?_⟩
        · rw [value?_operation named, left.tree, right.tree]
          rfl
        · intro before value
          have apart : BinaryOperator.divide ≠ .multiply := by decide
          rw [graft_reading_operation named arithmetic rfl
            left.shape.isArithmetic right.shape.isArithmetic,
            value?_graft_operandReading right.shape.isArithmetic arithmetic
              apart,
            left.passes_one, value, right.text]
          rfl
      next multiply =>
        cases multiply
        obtain ⟨first, left⟩ := leftHalves begins
        obtain ⟨second, right⟩ :=
          exists_settles config columns rightArithmetic 1
        refine ⟨.binary kind first second,
          .operation named rfl left.toReplaces right.toReplaces, ?_, ?_⟩
        · rw [value?_operation named, left.tree, right.tree]
          rfl
        · intro before value
          have firstBegins : first.beginsWithQuotient := by
            rwa [left.shape.beginsWithQuotient]
          rw [graft_reading_operation named rfl rfl left.shape.isArithmetic
            right.shape.isArithmetic, right.passes_operand rfl,
            operandReading_of_beginsWithQuotient firstBegins,
            left.text before value]
      next => cases begins

/-- The value that a product passes on is that of its right operand if there
is a one in front of it. -/
theorem value?_graft_one {before term : Term}
    (value : before.value? columns = some 1) :
    (Term.graft Term.sharesRank (.core .multiply) before term).value?
      columns = term.value? columns := by
  have alone (term : Term) :
      (Term.infixed (.core .multiply) before term).value? columns =
        term.value? columns := by
    rw [Term.value?_infixed, value]
    cases term.value? columns with
    | none => rfl
    | some second => exact congrArg some (Int.one_mul second)
  fun_induction Term.graft Term.sharesRank (.core .multiply) before term with
  | case1 other first second _ induction =>
      rw [Term.value?_infixed, Term.value?_infixed, induction]
  | case2 | case3 => exact alone _

/-- An expression that has no value but zero, and that is read with another
one. -/
structure Slips (config : Config) (columns : List Token → Int)
    (node other : Node) : Prop extends config.Replaces node other where
  tree : ∀ value, config.value? columns other = some value → value = 0
  text : ∃ value, (config.reading other).value? columns = some value ∧
    value ≠ 0

theorem Slips.ofLeft
    (named : BinaryOperator.ofKind? kind = some operator)
    (arithmetic : operator.isArithmetic)
    (rightArithmetic : right.IsArithmetic) {first : Node}
    (slips : config.Slips columns left first) :
    ∃ other, config.Slips columns (.binary kind left right) other := by
  obtain ⟨second, settles⟩ :=
    exists_settles config columns rightArithmetic operator.neutral
  refine ⟨.binary kind first second,
    .operation named arithmetic slips.toReplaces settles.toReplaces, ?_, ?_⟩
  · rw [value?_operation named, settles.tree]
    intro value found
    obtain ⟨own, known, result⟩ := Option.bind_eq_some_iff.mp found
    have same : operator.compute? own operator.neutral = some value := result
    rw [BinaryOperator.compute?_neutral arithmetic] at same
    exact Option.some.inj same ▸ slips.tree own known
  · rw [reading_operation named arithmetic slips.shape.isArithmetic
      settles.shape.isArithmetic, settles.passes_operand arithmetic,
      value?_operandReading]
    exact slips.text

/-- An integer in front of an operator with which zero gives nothing but zero,
and some other integer does not. -/
theorem exists_compute?_ne_zero (arithmetic : operator.isArithmetic)
    (apart : operator ≠ .multiply) {value : Int} (nonzero : value ≠ 0) :
    ∃ before, (∀ result, operator.compute? before 0 = some result → result = 0) ∧
      ∃ result, operator.compute? before value = some result ∧ result ≠ 0 := by
  cases operator with
  | plus => exact ⟨0, by simp [BinaryOperator.compute?], _, rfl, by simpa⟩
  | minus => exact ⟨0, by simp [BinaryOperator.compute?], _, rfl, by simpa⟩
  | multiply => exact absurd rfl apart
  | divide =>
      refine ⟨value, by simp [BinaryOperator.compute?], 1, ?_, by decide⟩
      simp [BinaryOperator.compute?, nonzero, Int.tdiv_self]
  | _ => cases arithmetic

theorem Slips.ofRight
    (named : BinaryOperator.ofKind? kind = some operator)
    (arithmetic : operator.isArithmetic)
    (leftArithmetic : left.IsArithmetic) {second : Node}
    (slips : config.Slips columns right second) :
    ∃ other, config.Slips columns (.binary kind left right) other := by
  obtain ⟨value, read, nonzero⟩ := slips.text
  by_cases multiply : operator = .multiply
  · subst multiply
    obtain ⟨first, settles⟩ :=
      exists_settles config columns leftArithmetic 1
    refine ⟨.binary kind first second,
      .operation named rfl settles.toReplaces slips.toReplaces, ?_, value, ?_,
      nonzero⟩
    · rw [value?_operation named, settles.tree, Option.bind_some]
      intro result found
      obtain ⟨own, known, last⟩ := Option.bind_eq_some_iff.mp found
      cases slips.tree own known
      cases last
      rfl
    · rw [reading_operation named rfl settles.shape.isArithmetic
        slips.shape.isArithmetic, value?_graft_one, value?_operandReading,
        read]
      rw [value?_operandReading, settles.text]
  · obtain ⟨before, zero, result, applied, different⟩ :=
      exists_compute?_ne_zero arithmetic multiply nonzero
    obtain ⟨first, settles⟩ :=
      exists_settles config columns leftArithmetic before
    refine ⟨.binary kind first second,
      .operation named arithmetic settles.toReplaces slips.toReplaces, ?_,
      result, ?_, different⟩
    · rw [value?_operation named, settles.tree, Option.bind_some]
      intro result found
      obtain ⟨own, known, last⟩ := Option.bind_eq_some_iff.mp found
      cases slips.tree own known
      exact zero result last
    · rw [reading_operation named arithmetic settles.shape.isArithmetic
        slips.shape.isArithmetic,
        value?_graft_operandReading slips.shape.isArithmetic arithmetic
          multiply, value?_operandReading, settles.text, read]
      exact applied

theorem exists_slips_of_mergesQuotient (leftArithmetic : left.IsArithmetic)
    (rightArithmetic : right.IsArithmetic)
    (merges : (Node.binary kind left right).mergesQuotient) :
    ∃ other, config.Slips columns (.binary kind left right) other := by
  simp only [Node.mergesQuotient, Bool.and_eq_true, decide_eq_true_eq]
    at merges
  obtain ⟨⟨named, product⟩, begins⟩ := merges
  obtain ⟨first, settles⟩ :=
    exists_settles config columns leftArithmetic 2
  obtain ⟨second, halves⟩ :=
    exists_halves config columns rightArithmetic begins
  refine ⟨.binary kind first second,
    .operation named rfl settles.toReplaces halves.toReplaces, ?_, 1, ?_,
    by decide⟩
  · rw [value?_operation named, settles.tree, halves.tree]
    intro value found
    cases found
    rfl
  · have bare : config.operandReading .multiply true second =
        config.reading second := by
      apply operandReading_of_isBinaryOf
      rwa [halves.shape.isBinaryOf]
    rw [reading_operation named rfl settles.shape.isArithmetic
      halves.shape.isArithmetic, bare, halves.text]
    rw [value?_operandReading, settles.text]

theorem exists_slips (config : Config) (columns : List Token → Int)
    (arithmetic : node.IsArithmetic)
    (merges : ¬ node.KeepsQuotients) :
    ∃ other, config.Slips columns node other := by
  induction arithmetic with
  | leaf leaf =>
      refine absurd ?_ merges
      cases leaf with
      | integer value => exact Node.All.literal.mpr rfl
      | column table? name => exact Node.All.column.mpr rfl
  | group _ inner =>
      obtain ⟨other, slips⟩ := inner fun keeps =>
        merges (Node.All.group.mpr ⟨rfl, keeps⟩)
      exact ⟨.group other, slips.toReplaces.group, slips.tree, slips.text⟩
  | @operation kind operator left right named arithmetic leftArithmetic
      rightArithmetic leftSlips rightSlips =>
      by_cases leftKeeps : left.KeepsQuotients
      · by_cases rightKeeps : right.KeepsQuotients
        · refine exists_slips_of_mergesQuotient leftArithmetic rightArithmetic
            ?_
          by_contra own
          refine merges (Node.All.binary.mpr ⟨?_, leftKeeps, rightKeeps⟩)
          simpa using own
        · obtain ⟨second, slips⟩ := rightSlips rightKeeps
          exact slips.ofRight named arithmetic leftArithmetic
      · obtain ⟨first, slips⟩ := leftSlips leftKeeps
        exact slips.ofLeft named arithmetic rightArithmetic

end Operands

theorem read?_arithmetic (arithmetic : node.IsArithmetic) {text : String}
    (success : config.render node = .ok text) :
    ∃ tokens, scan text = some tokens ∧
      coreOperators.read? tokens = some (config.reading node) :=
  read?_of_render (coreOperators_describes config)
    (arithmetic.isExpression coreOperators) success

theorem value?_reading (arithmetic : node.IsArithmetic) {text : String}
    (success : config.render node = .ok text) (kept : node.KeepsQuotients) :
    (config.reading node).value? columns = config.value? columns node := by
  have expression := arithmetic.isExpression coreOperators
  have describes := coreOperators_describes config
  obtain ⟨_, written⟩ := scan_eq_tokens describes expression success
  rw [reading, ← Term.value?_normal,
    normal_reading_writtenAt describes expression success kept,
    Term.value?_normal, value?_term arithmetic written]

/-- The text of an arithmetic expression has the expression's value, whatever
its integers and columns are, exactly if no product takes in another one that
begins with a quotient. -/
theorem keepsQuotients_iff_value? (config : Config)
    (columns : List Token → Int) (arithmetic : node.IsArithmetic) :
    node.KeepsQuotients ↔
      ∀ other text, node.SameShape other → config.render other = .ok text →
        ∃ tokens term, scan text = some tokens ∧
          coreOperators.read? tokens = some term ∧
            term.value? columns = config.value? columns other := by
  constructor
  · intro keeps other text shape success
    obtain ⟨tokens, scanned, read⟩ :=
      read?_arithmetic shape.isArithmetic success
    refine ⟨tokens, config.reading other, scanned, read, ?_⟩
    exact value?_reading shape.isArithmetic success
      (shape.keepsQuotients keeps)
  · intro same
    by_contra merges
    obtain ⟨other, slips⟩ := exists_slips config columns arithmetic merges
    obtain ⟨text, success⟩ := slips.exists_render
    obtain ⟨tokens, scanned, read⟩ :=
      read?_arithmetic slips.shape.isArithmetic success
    obtain ⟨own, term, ownScanned, ownRead, value⟩ :=
      same other text slips.shape success
    obtain rfl : own = tokens :=
      Option.some.inj (ownScanned.symm.trans scanned)
    obtain rfl : term = config.reading other :=
      Option.some.inj (ownRead.symm.trans read)
    obtain ⟨result, found, nonzero⟩ := slips.text
    rw [found] at value
    exact nonzero (slips.tree result value.symm)

/-- Three times the product of a half and two. -/
def thriceHalfTwice : Node :=
  .binary "*" (.int 3) (.binary "*" (.binary "/" (.int 1) (.int 2)) (.int 2))

/-- It is zero, and is read as three times one, halved and doubled. -/
theorem value?_thriceHalfTwice_ne :
    thriceHalfTwice.IsArithmetic ∧
      postgres.value? (fun _ => 0) thriceHalfTwice = some 0 ∧
      postgres.render thriceHalfTwice = .ok "3 * 1 / 2 * 2" ∧
      (∃ tokens term, scan "3 * 1 / 2 * 2" = some tokens ∧
        coreOperators.read? tokens = some term ∧
          term.value? (fun _ => 0) = some 2) ∧
      ¬ thriceHalfTwice.KeepsQuotients := by
  have integer (value : Int) : (Node.int value).IsArithmetic :=
    .leaf (.integer value)
  have half : (Node.binary "/" (.int 1) (.int 2)).IsArithmetic :=
    .operation rfl rfl (integer 1) (integer 2)
  have arithmetic : thriceHalfTwice.IsArithmetic :=
    .operation rfl rfl (integer 3) (.operation rfl rfl half (integer 2))
  have success : postgres.render thriceHalfTwice = .ok "3 * 1 / 2 * 2" :=
    rfl
  let tokens : List Token := [.number "3", .operator "*", .number "1",
    .operator "/", .number "2", .operator "*", .number "2"]
  have scanned : scan "3 * 1 / 2 * 2" = some tokens := by decide
  have known : coreOperators.read? tokens = some
      (.infixed (.core .multiply)
        (.infixed (.core .divide)
          (.infixed (.core .multiply) (.atom [.number "3"])
            (.atom [.number "1"]))
          (.atom [.number "2"]))
        (.atom [.number "2"])) := rfl
  refine ⟨arithmetic, rfl, success, ⟨tokens, _, scanned, known, rfl⟩,
    fun keeps => ?_⟩
  obtain ⟨own, term, ownScanned, ownKnown, value⟩ :=
    (keepsQuotients_iff_value? postgres (fun _ => 0) arithmetic).mp keeps _ _
      (.refl arithmetic) success
  obtain rfl : own = tokens := Option.some.inj (ownScanned.symm.trans scanned)
  rw [known] at ownKnown
  cases ownKnown
  cases value

end Config

end SqlExpr
