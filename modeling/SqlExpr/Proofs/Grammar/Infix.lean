import SqlExpr.Proofs.Grammar.RoundTrip
import SqlExpr.Proofs.Output.Array
import SqlExpr.Proofs.Output.Sign

/-!
# Infix operators and what is read of their operands

An infix operator writes the texts of its operands on both of its sides, each
in parentheses if it has to stand in them.  It keeps its operands if what is
read on each side is what is read of the operand's own text.  It does if the
terms that the operands are written as bind as the operands do.
-/

namespace SqlExpr

open SqlExpr.Grammar SqlExpr.Lexis

namespace Grammar

/-- The core operator that an infix operator is, if it is one. -/
def InfixOperator.core? : InfixOperator → Option BinaryOperator
  | .core operator => some operator
  | .registered _ => none

/-- Where an operand of an infix operator stands. -/
def InfixOperator.position (operator : InfixOperator) (onRight : Bool) :
    Position :=
  .operand operator.precedence operator.core? onRight

namespace OperatorTable

/-- The infix operators with their kinds. -/
inductive Names (table : OperatorTable) : String → InfixOperator → Prop where
  | core {kind : String} {operator : BinaryOperator}
      (named : BinaryOperator.ofKind? kind = some operator)
      (plain : operator ∈ plainOperators) : Names table kind (.core operator)
  | registered {kind : String} (known : kind ∈ table.kinds) :
      Names table kind (.registered kind)

theorem Names.knows {table : OperatorTable} {kind : String}
    {operator : InfixOperator} (names : table.Names kind operator) :
    table.Knows operator := by
  cases names with
  | core named plain => exact plain
  | registered known => exact known

end OperatorTable

end Grammar

namespace Config

variable {table : OperatorTable} {config : Config} {kind : String}
  {operator : InfixOperator} {left right node : Node}
  {text leftText rightText : String} {first second : Term}

/-! ## The text of an operator with its operands -/

/-- The node is written as a whole where it stands as an operand. -/
def IsWhole (node : Node) : Prop :=
  ∀ position : Position, position.takesApart node = false

theorem renderAt_isWhole (whole : IsWhole node)
    (success : config.render node = .ok text) (position : Position) :
    config.renderAt position node =
      .write (position.separator ++
        Text.enclosed (position.parenthesizes node) text) := by
  have alone : config.renderAt .free node = .write text :=
    Rendering.result_eq_ok_iff.mp success
  rw [renderAt_eq_place (whole position), alone, Position.place_write]

theorem reads_symbol {operator : BinaryOperator}
    (plain : operator ∈ plainOperators) :
    Reads operator.symbol.toList [operatorToken operator] := by
  cases operator <;>
    first
    | exact ⟨_, _, _, rfl, rfl, rfl⟩
    | simp [plainOperators] at plain

theorem renderAt_infixed (describes : table.Describes config)
    (names : table.Names kind operator) (present : right.isNull = false)
    (leftWhole : IsWhole left) (rightWhole : IsWhole right)
    (leftSuccess : config.render left = .ok leftText)
    (rightSuccess : config.render right = .ok rightText) :
    ∃ symbol, Reads symbol.toList [table.token operator] ∧
      config.renderAt .free (.binary kind left right) =
        .write (Text.enclosed ((operator.position false).parenthesizes left)
            leftText ++ (" " ++ symbol ++ " " ++
          Text.enclosed ((operator.position true).parenthesizes right)
            rightText)) := by
  cases names with
  | @core operator named plain =>
      have separator : operator.joint ++ operator.rightPosition.separator =
          " " ++ operator.symbol ++ " " := by
        cases operator <;> rfl
      have joined (text : String) :
          operator.joint ++ (operator.rightPosition.separator ++ text) =
            " " ++ operator.symbol ++ " " ++ text := by
        rw [← separator, String.append_assoc]
      refine ⟨operator.symbol, reads_symbol plain, ?_⟩
      rw [renderAt_binary named present,
        renderAt_isWhole leftWhole leftSuccess,
        renderAt_isWhole rightWhole rightSuccess,
        BinaryOperator.separator_leftPosition,
        BinaryOperator.parenthesizes_leftPosition,
        BinaryOperator.parenthesizes_rightPosition,
        Rendering.write_append_write, Rendering.write_append_write,
        String.empty_append, joined]
      rfl
  | registered known =>
      obtain ⟨other, symbol, left?, right?, found, read⟩ :=
        describes.form _ (OperatorTable.token_registered known)
      have between : config.WritesBetween kind symbol :=
        ⟨other, Registry.form?_of_find found⟩
      refine ⟨symbol, read, ?_⟩
      rw [renderAt_between between, renderAt_isWhole leftWhole leftSuccess,
        renderAt_isWhole rightWhole rightSuccess,
        Rendering.write_append_write, Rendering.write_append_write]
      have bare (onRight : Bool) :
          (Position.operand .other none onRight).separator = "" := rfl
      rw [bare, bare, String.empty_append, String.empty_append]
      rfl

theorem reads_enclosed {position : Position}
    (read : Reads text.toList (first.tokens table)) :
    Reads (Text.enclosed (position.parenthesizes node) text).toList
      ((position.enclosed node first).tokens table) := by
  unfold Text.enclosed Position.enclosed
  split
  next =>
    have opening : Completes ['('] [.mark '('] := rfl
    have closing : Completes [')'] [.mark ')'] := rfl
    have delimited : Delimited [')'] := rfl
    have inner := read.append_completes (List.cons_ne_nil _ _) delimited
      closing
    have split : ("(" ++ text ++ ")").toList =
        ['('] ++ (text.toList ++ [')']) := by
      simp
    rw [split]
    exact (opening.append inner).reads
  next => exact read

/-! ## What is read of a node -/

/-- The term that the text of a node is read as. -/
def read? (config : Config) (table : OperatorTable) (node : Node) :
    Option Term :=
  match config.render node with
  | .ok text => (scan text).bind table.read?
  | .error _ => none

/-- The text of a node has the tokens of a term, which is read from them. -/
structure ReadsAs (config : Config) (table : OperatorTable) (node : Node)
    (text : String) (term : Term) : Prop where
  success : config.render node = .ok text
  reads : Reads text.toList (term.tokens table)
  grouped : term.IsGrouped table Term.IsTight

/-- The text of an operator with two operands is read as the operator with two
operands, and each of these is what is read of the operand's own text, possibly
in parentheses. -/
def KeepsOperands (config : Config) (table : OperatorTable)
    (operator : InfixOperator) (kind : String) (left right : Node) : Prop :=
  ∃ first second leftRead rightRead,
    config.read? table left = some first ∧
      config.read? table right = some second ∧
      config.read? table (.binary kind left right) =
        some (.infixed operator leftRead rightRead) ∧
      (leftRead = first ∨ leftRead = .grouped first) ∧
      (rightRead = second ∨ rightRead = .grouped second)

theorem ReadsAs.read?_eq (distinct : table.IsDistinct)
    (reads : config.ReadsAs table node text first) :
    config.read? table node = some first := by
  have scanned : scan text = some (first.tokens table) :=
    reads.reads.scanChars_eq
  simp only [read?, reads.success, scanned, Option.bind_some,
    OperatorTable.read?_of_isTight distinct reads.grouped]

theorem enclosed_of_unbound (unbound : node.binding? = none)
    (onRight : Bool) (term : Term) :
    (operator.position onRight).enclosed node term = term := by
  have bare : (operator.position onRight).parenthesizes node = false := by
    simp [InfixOperator.position, Position.parenthesizes, needsParentheses,
      unbound]
  unfold Position.enclosed
  rw [bare]
  rfl

theorem enclosed_eq_or (position : Position) (node : Node) (term : Term) :
    position.enclosed node term = term ∨
      position.enclosed node term = .grouped term := by
  unfold Position.enclosed
  split
  · exact .inr rfl
  · exact .inl rfl

section Operands

variable (describes : table.Describes config)
  (names : table.Names kind operator) (present : right.isNull = false)
  (leftWhole : IsWhole left) (rightWhole : IsWhole right)
  (leftReads : config.ReadsAs table left leftText first)
  (rightReads : config.ReadsAs table right rightText second)
include describes names present leftWhole rightWhole leftReads rightReads

/-- What is read of an operator with its operands is read from the tokens of
the terms that these are written as. -/
theorem read?_infixed :
    config.read? table (.binary kind left right) =
      table.read? ((Term.infixed operator
        ((operator.position false).enclosed left first)
        ((operator.position true).enclosed right second)).tokens table) := by
  obtain ⟨symbol, read, rendering⟩ := renderAt_infixed describes names present
    leftWhole rightWhole leftReads.success rightReads.success
  let leftPosition := operator.position false
  let rightPosition := operator.position true
  have before : Reads
      (Text.enclosed (leftPosition.parenthesizes left) leftText).toList
      ((leftPosition.enclosed left first).tokens table) :=
    reads_enclosed leftReads.reads
  have behind : Reads
      (Text.enclosed (rightPosition.parenthesizes right) rightText).toList
      ((rightPosition.enclosed right second).tokens table) :=
    reads_enclosed rightReads.reads
  have joined := read.between_blanks.append_reads behind
  have delimited : Delimited ((" " ++ symbol ++ " ").toList ++
      (Text.enclosed (rightPosition.parenthesizes right)
        rightText).toList) := by
    simp [Delimited, isDelimiter, isSpace]
  have whole := before.append delimited joined
  rw [← String.toList_append, ← String.toList_append] at whole
  have scanned := whole.scanChars_eq
  have success : config.render (.binary kind left right) = .ok _ :=
    Rendering.result_eq_ok_iff.mpr rendering
  simp only [read?, success]
  change (scanChars _).bind table.read? = _
  rw [scanned]
  rfl

/-- An operator keeps its operands if it can have the terms that they are
written as. -/
theorem keepsOperands_of_isTight
    (taken : ((operator.position false).enclosed left first).isTakenBy
      operator.precedence)
    (tight : Term.IsTight operator
      ((operator.position true).enclosed right second)) :
    config.KeepsOperands table operator kind left right := by
  have distinct := describes.toIsDistinct
  have grouped := Term.IsGrouped.infixed names.knows taken tight
    (isGrouped_enclosed leftReads.grouped)
    (isGrouped_enclosed rightReads.grouped)
  have whole : config.read? table (.binary kind left right) =
      some (.infixed operator ((operator.position false).enclosed left first)
        ((operator.position true).enclosed right second)) := by
    rw [read?_infixed describes names present leftWhole rightWhole leftReads
      rightReads]
    exact OperatorTable.read?_of_isTight distinct grouped
  exact ⟨first, second, _, _, leftReads.read?_eq distinct,
    rightReads.read?_eq distinct, whole, enclosed_eq_or _ left first,
    enclosed_eq_or _ right second⟩

end Operands

/-- A node that is written as a whole, as a term which binds as the node does,
and whose operator is not one that merges with others. -/
structure IsOperand (config : Config) (table : OperatorTable) (node : Node) :
    Prop where
  whole : IsWhole node
  present : node.isNull = false
  apart : ∀ operator : BinaryOperator, operator.isAssociative →
    node.isBinaryOf operator = false
  reads : ∃ text term, config.ReadsAs table node text term ∧
    term.BindsAs node

theorem keepsOperands_of_isOperand (describes : table.Describes config)
    (names : table.Names kind operator) (leftOperand : config.IsOperand table left)
    (rightOperand : config.IsOperand table right) :
    config.KeepsOperands table operator kind left right := by
  obtain ⟨leftText, first, leftReads, leftBinds⟩ := leftOperand.reads
  obtain ⟨rightText, second, rightReads, rightBinds⟩ := rightOperand.reads
  apply keepsOperands_of_isTight describes names rightOperand.present
    leftOperand.whole rightOperand.whole leftReads rightReads
  · exact leftBinds.isTakenBy
  · have tight : operator.precedence.rank <
        ((operator.position true).enclosed right second).rank ∨ _ :=
      rightBinds.onRight
    rcases tight with tight | ⟨own, _, associative, merges, _⟩
    · exact tight
    · rw [rightOperand.apart own associative] at merges
      cases merges

theorem readsAs_of_isExpression (describes : table.Describes config)
    (expression : node.IsExpression table)
    (success : config.render node = .ok text) :
    config.ReadsAs table node text (config.writtenAt .free node).reading := by
  obtain ⟨read, written⟩ := reads_tokens describes expression success
  have grouped := isGrouped_writtenAt describes expression written
    False.elim .free Position.connective_of_free
  refine ⟨success, ?_, ?_⟩
  · rw [Term.tokens_reading grouped]
    exact read
  · exact Term.isGrouped_reading (fun _ _ => Term.IsJoined.isReadable) grouped

end Config

namespace Grammar.OperatorTable

variable {table : OperatorTable} {inner outer : InfixOperator}
  {first second third left right : Term}

/-! ## Operands that are not kept -/

theorem tokens_infixed_assoc :
    (Term.infixed outer (.infixed inner first second) third).tokens table =
      (Term.infixed inner first (.infixed outer second third)).tokens
        table := by
  simp only [Term.tokens, List.append_assoc]

theorem isTakenBy_of_tight (precedence : Precedence)
    (tight : Precedence.multiplicative.rank < first.rank) :
    first.isTakenBy precedence :=
  Term.isTakenBy_iff.mpr (.inl (precedence.rank_le.trans_lt tight))

theorem isGrouped_of_tight (known : table.Knows inner)
    (firstTight : Precedence.multiplicative.rank < first.rank)
    (secondTight : inner.rank < second.rank)
    (firstGrouped : first.IsGrouped table Term.IsTight)
    (secondGrouped : second.IsGrouped table Term.IsTight) :
    (Term.infixed inner first second).IsGrouped table Term.IsTight :=
  .infixed known (isTakenBy_of_tight _ firstTight) secondTight firstGrouped
    secondGrouped

section Loose

variable (distinct : table.IsDistinct)
  (innerKnown : table.Knows inner) (outerKnown : table.Knows outer)
  (firstTight : Precedence.multiplicative.rank < first.rank)
  (secondTight : Precedence.multiplicative.rank < second.rank)
  (thirdTight : Precedence.multiplicative.rank < third.rank)
  (firstGrouped : first.IsGrouped table Term.IsTight)
  (secondGrouped : second.IsGrouped table Term.IsTight)
  (thirdGrouped : third.IsGrouped table Term.IsTight)
include distinct innerKnown outerKnown firstTight secondTight firstGrouped
  secondGrouped

/-- Two operators of one rank do not follow each other if none of that rank
can. -/
theorem read?_eq_none_of_rank_eq (same : inner.rank = outer.rank)
    (apart : inner.precedence.isChainable = false) :
    table.read? ((Term.infixed outer (.infixed inner first second)
      third).tokens table) = none := by
  have precedences : inner.precedence = outer.precedence :=
    Precedence.rank_injective same
  have grouped := isGrouped_of_tight innerKnown firstTight
    (inner.precedence.rank_le.trans_lt secondTight) firstGrouped secondGrouped
  apply read?_eq_none distinct outerKnown grouped same.symm
  rw [Bool.eq_false_iff, ne_eq, Term.isTakenBy_iff, ← precedences]
  rintro (less | ⟨chainable, _⟩)
  · exact Nat.lt_irrefl _ less
  · rw [apart] at chainable
    cases chainable

include thirdTight thirdGrouped

/-- An operator that binds no more tightly than the one behind it is not read
as its left operand. -/
theorem read?_loose_left (ranks : inner.rank ≤ outer.rank)
    (apart : inner.precedence.isChainable = false) :
    table.read? ((Term.infixed outer (.infixed inner first second)
      third).tokens table) ≠ some (.infixed outer left right) := by
  rcases Nat.lt_or_eq_of_le ranks with less | same
  · have behind := isGrouped_of_tight outerKnown secondTight
      (outer.precedence.rank_le.trans_lt thirdTight) secondGrouped thirdGrouped
    have tight : inner.rank < (Term.infixed outer second third).rank := less
    have grouped := isGrouped_of_tight innerKnown firstTight tight firstGrouped
      behind
    rw [tokens_infixed_assoc, read?_of_isTight distinct grouped]
    intro read
    cases read
    exact Nat.lt_irrefl _ less
  · rw [read?_eq_none_of_rank_eq distinct innerKnown outerKnown firstTight
      secondTight firstGrouped secondGrouped same apart]
    nofun

/-- An operator that binds no more tightly than the one before it is not read
as its right operand. -/
theorem read?_loose_right (ranks : inner.rank ≤ outer.rank)
    (apart : inner.precedence.isChainable = false) :
    table.read? ((Term.infixed outer first
      (.infixed inner second third)).tokens table) ≠
        some (.infixed outer left right) := by
  rw [← tokens_infixed_assoc]
  rcases Nat.lt_or_eq_of_le ranks with less | same
  · have before := isGrouped_of_tight outerKnown firstTight
      (outer.precedence.rank_le.trans_lt secondTight) firstGrouped
      secondGrouped
    have taken : (Term.infixed outer first second).isTakenBy
        inner.precedence := Term.isTakenBy_iff.mpr (.inl less)
    have grouped := Term.IsGrouped.infixed innerKnown taken
      (inner.precedence.rank_le.trans_lt thirdTight) before thirdGrouped
    rw [read?_of_isTight distinct grouped]
    intro read
    cases read
    exact Nat.lt_irrefl _ less
  · have outerApart : outer.precedence.isChainable = false := by
      rw [← Precedence.rank_injective same]
      exact apart
    rw [read?_eq_none_of_rank_eq distinct outerKnown innerKnown firstTight
      secondTight firstGrouped secondGrouped same.symm outerApart]
    nofun

end Loose

end Grammar.OperatorTable

end SqlExpr
