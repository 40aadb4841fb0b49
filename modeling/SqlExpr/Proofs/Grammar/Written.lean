import SqlExpr.Proofs.Grammar.Tree

/-!
# What an expression is written as

The tokens of an expression's parts are those of the term that it is written
as, and the operands of that term hold together.
-/

namespace SqlExpr

open SqlExpr.Grammar SqlExpr.Lexis

section Tokens

variable {table : OperatorTable} {config : Config}

/-- Every part can be written. -/
def Part.AllWritten (config : Config) (parts : List Part) : Prop :=
  ∀ part ∈ parts, ∃ text, part.render config = .write text

theorem Part.AllWritten.exists_write {parts : List Part}
    (written : Part.AllWritten config parts) :
    ∃ text, Rendering.ofParts config parts = .write text := by
  induction parts with
  | nil => exact ⟨"", rfl⟩
  | cons part parts induction =>
      obtain ⟨⟨first, own⟩, rest⟩ := List.forall_mem_cons.mp written
      obtain ⟨second, others⟩ := induction rest
      refine ⟨first ++ second, ?_⟩
      rw [Rendering.ofParts_cons, own, others]
      rfl

theorem Part.tokens_verbatim {text : String} {tokens : List Token}
    (read : scan text = some tokens) :
    (Part.verbatim text).tokens config = tokens := by
  simp only [Part.tokens, Part.render, Rendering.write, read, Option.getD_some]

theorem Position.flatMap_tokens_placed {position : Position} {node : Node}
    {body : List Part} {term : Term}
    (same : body.flatMap (Part.tokens config) = term.tokens table) :
    (position.placed node body).flatMap (Part.tokens config) =
      position.joint.flatMap (Part.tokens config) ++
        (position.enclosed node term).tokens table := by
  have opening : (Part.verbatim "(").tokens config = [.mark '('] :=
    Part.tokens_verbatim (by decide)
  have closing : (Part.verbatim ")").tokens config = [.mark ')'] :=
    Part.tokens_verbatim (by decide)
  unfold Position.placed Position.enclosed
  split <;> simp [Term.tokens, same, opening, closing]

theorem Position.allWritten_of_placed {position : Position} {node : Node}
    {body : List Part}
    (success : Part.AllWritten config (position.placed node body)) :
    Part.AllWritten config body := by
  intro part member
  apply success
  unfold Position.placed
  split <;> simp [member]

theorem Position.allWritten_placed {position : Position} {node : Node}
    {body : List Part} (written : Part.AllWritten config body) :
    Part.AllWritten config (position.placed node body) := by
  have verbatim (text : String) :
      ∃ own, (Part.verbatim text).render config = .write own := ⟨text, rfl⟩
  have joint : Part.AllWritten config position.joint := by
    unfold Position.joint
    split
    · exact List.forall_mem_singleton.mpr (verbatim _)
    · exact List.forall_mem_nil _
  unfold Position.placed
  refine List.forall_mem_append.mpr ⟨joint, ?_⟩
  split
  · refine List.forall_mem_cons.mpr ⟨verbatim "(", ?_⟩
    exact List.forall_mem_append.mpr ⟨written,
      List.forall_mem_singleton.mpr (verbatim ")")⟩
  · exact written

namespace Config

theorem tokens_between {symbol : String} {token : Token}
    (read : Reads symbol.toList [token]) :
    (Part.verbatim (" " ++ symbol ++ " ")).tokens config = [token] :=
  Part.tokens_verbatim read.between_blanks.reads.scanChars_eq

theorem tokens_symbol {operator : BinaryOperator}
    (plain : operator ∈ plainOperators) :
    (Part.verbatim (" " ++ operator.symbol ++ " ")).tokens config =
      (Link.infixed (.core operator)).tokens table := by
  have spelled : ∀ operator ∈ plainOperators,
      (scan (" " ++ operator.symbol ++ " ")).getD [] =
        [operatorToken operator] := by
    decide
  exact spelled operator plain

theorem tokens_nullTest {operator : BinaryOperator}
    (tests : operator.testsNull) :
    (Part.verbatim operator.nullTest).tokens config =
      (Link.nullTest (operator = .notEq)).tokens table := by
  have missing : scan " IS NULL" = some [.word "IS", .word "NULL"] := by
    decide
  have present :
      scan " IS NOT NULL" = some [.word "IS", .word "NOT", .word "NULL"] := by
    decide
  cases operator with
  | eq => exact Part.tokens_verbatim missing
  | notEq => exact Part.tokens_verbatim present
  | _ => cases tests

section Core

variable {kind : String} {operator : BinaryOperator} {position : Position}
  {left right : Node}

theorem partsAt_connective
    (named : BinaryOperator.ofKind? kind = some operator)
    (connective : operator.isConnective) (unbound : position ≠ .bounds) :
    config.partsAt position (.binary kind left right) =
      if position.continues operator then
        config.partsAt position left ++
          config.partsAt (.chained operator false) right
      else
        position.placed (.binary kind left right)
          (config.partsAt (.chained operator true) left ++
            config.partsAt (.chained operator false) right) := by
  rw [partsAt]
  simp only [named, connective, ↓reduceIte]
  split
  · exact absurd rfl unbound
  · rfl

theorem partsAt_operator
    (named : BinaryOperator.ofKind? kind = some operator)
    (connective : operator.isConnective = false) :
    config.partsAt position (.binary kind left right) =
      position.placed (.binary kind left right)
        (config.partsAt
            (.operand operator.precedence (some operator) false) left ++
          if operator.testsNull && right.isNull then
            [.verbatim operator.nullTest]
          else if operator = .between then
            .verbatim " BETWEEN " :: config.partsAt .bounds right
          else
            .verbatim (" " ++ operator.symbol ++ " ") ::
              config.partsAt
                (.operand operator.precedence (some operator) true) right) := by
  rw [partsAt]
  simp only [named, connective]
  split
  · cases connective
  · rfl

theorem writtenAt_plain
    (named : BinaryOperator.ofKind? kind = some operator)
    (plain : operator ∈ plainOperators)
    (connective : operator.isConnective = false) :
    config.writtenAt position (.binary kind left right) =
      position.enclosed (.binary kind left right)
        (if operator.testsNull && right.isNull then
          .nullTest (operator = .notEq) (config.writtenAt
            (.operand operator.precedence (some operator) false) left)
        else
          .infixed (.core operator)
            (config.writtenAt
              (.operand operator.precedence (some operator) false) left)
            (config.writtenAt
              (.operand operator.precedence (some operator) true) right)) := by
  rw [writtenAt]
  simp only [named, connective]
  cases operator with
  | between | inList | notInList => simp [plainOperators] at plain
  | _ => rfl

theorem writtenAt_connective
    (named : BinaryOperator.ofKind? kind = some operator)
    (connective : operator.isConnective) :
    config.writtenAt position (.binary kind left right) =
      if position.continues operator then
        .infixed (.core operator) (config.writtenAt position left)
          (config.writtenAt (.chained operator false) right)
      else
        position.enclosed (.binary kind left right)
          (.infixed (.core operator)
            (config.writtenAt (.chained operator true) left)
            (config.writtenAt (.chained operator false) right)) := by
  rw [writtenAt]
  simp only [named, connective, ↓reduceIte]

theorem writtenAt_member {operand : Node} {items : List Node} {negated : Bool}
    (same : (if negated then .notInList else .inList) = operator)
    (named : BinaryOperator.ofKind? kind = some operator) :
    config.writtenAt position (.binary kind operand (.group (.list items))) =
      position.enclosed (.binary kind operand (.group (.list items)))
        (.member negated
          (config.writtenAt (.operand .range (some operator) false) operand)
          (config.writtenOfAll items)) := by
  rw [writtenAt, named]
  cases negated <;> subst same <;> rfl

theorem writtenAt_registered (other : BinaryOperator.ofKind? kind = none) :
    config.writtenAt position (.binary kind left right) =
      position.enclosed (.binary kind left right)
        (.infixed (.registered kind)
          (config.writtenAt (.operand .other none false) left)
          (config.writtenAt (.operand .other none true) right)) := by
  simp only [writtenAt, other]

end Core

/-- Wherever a node can be written, its tokens are those of its term. -/
def WritesTerm (config : Config) (table : OperatorTable) (node : Node) :
    Prop :=
  ∀ position, position ≠ .bounds →
    Part.AllWritten config (config.partsAt position node) →
      (config.partsAt position node).flatMap (Part.tokens config) =
        position.joint.flatMap (Part.tokens config) ++
          (config.writtenAt position node).tokens table

theorem partsAt_items {precedence : Precedence}
    {operator? : Option BinaryOperator} {onRight : Bool} {items : List Node} :
    config.partsAt (.operand precedence operator? onRight)
        (.group (.list items)) =
      .verbatim "(" :: (Part.join ", " (config.partsOfAll items) ++
        [.verbatim ")"]) := by
  simp [partsAt, Position.continues, Position.placed, Position.joint,
    Position.parenthesizes, needsParentheses, Node.binding?]

namespace WritesTerm

theorem free {node : Node} (writes : config.WritesTerm table node)
    (success : Part.AllWritten config (config.partsAt .free node)) :
    (config.partsAt .free node).flatMap (Part.tokens config) =
      (config.writtenAt .free node).tokens table :=
  writes .free nofun success

theorem operand {node : Node} (writes : config.WritesTerm table node)
    {precedence : Precedence} {operator? : Option BinaryOperator}
    {onRight : Bool}
    (success : Part.AllWritten config
      (config.partsAt (.operand precedence operator? onRight) node)) :
    (config.partsAt (.operand precedence operator? onRight) node).flatMap
        (Part.tokens config) =
      (config.writtenAt (.operand precedence operator? onRight) node).tokens
        table :=
  writes (.operand precedence operator? onRight) nofun success

/-- A node whose parts do not depend on its position but for parentheses. -/
theorem ofPlaced {node : Node} {body : List Part} {term : Term}
    (parts : ∀ position, position ≠ .bounds →
      config.partsAt position node = position.placed node body)
    (written : ∀ position,
      config.writtenAt position node = position.enclosed node term)
    (same : Part.AllWritten config body →
      body.flatMap (Part.tokens config) = term.tokens table) :
    config.WritesTerm table node := by
  intro position unbound success
  rw [parts position unbound] at success ⊢
  rw [written]
  exact Position.flatMap_tokens_placed
    (same (Position.allWritten_of_placed success))

theorem tokens_join {nodes : List Node}
    (writes : ∀ node ∈ nodes, config.WritesTerm table node)
    (success : Part.AllWritten config
      (Part.join ", " (config.partsOfAll nodes))) :
    (Part.join ", " (config.partsOfAll nodes)).flatMap (Part.tokens config) =
      [.mark ','].intercalate
        (Term.tokensOfAll table (config.writtenOfAll nodes)) := by
  have comma : (Part.verbatim ", ").tokens config = [.mark ','] :=
    Part.tokens_verbatim (by decide)
  induction nodes with
  | nil => rfl
  | cons node nodes induction =>
      rw [List.forall_mem_cons] at writes
      obtain ⟨own, others⟩ := writes
      cases nodes with
      | nil =>
          have only := own.free success
          simpa [partsOfAll, Part.join, writtenOfAll, Term.tokensOfAll]
            using only
      | cons next nodes =>
          obtain ⟨first, rest⟩ := List.forall_mem_append.mp success
          have head := own.free first
          have tail := induction others (List.forall_mem_cons.mp rest).2
          simp only [partsOfAll, Part.join, writtenOfAll, Term.tokensOfAll,
            List.flatMap_append, List.flatMap_cons, comma, head,
            List.intercalate_cons_cons] at tail ⊢
          simp [tail]

theorem tokens_branches {branches : List (Node × Node)}
    (conditions : ∀ branch ∈ branches, config.WritesTerm table branch.1)
    (results : ∀ branch ∈ branches, config.WritesTerm table branch.2)
    (success : Part.AllWritten config (config.partsOfBranches branches)) :
    (config.partsOfBranches branches).flatMap (Part.tokens config) =
      Term.tokensOfBranches table (config.writtenOfBranches branches) := by
  have when_ : (Part.verbatim " WHEN ").tokens config = [.word "WHEN"] :=
    Part.tokens_verbatim (by decide)
  have then_ : (Part.verbatim " THEN ").tokens config = [.word "THEN"] :=
    Part.tokens_verbatim (by decide)
  induction branches with
  | nil => rfl
  | cons branch branches induction =>
      obtain ⟨condition, result⟩ := branch
      rw [List.forall_mem_cons] at conditions results
      simp only [partsOfBranches, Part.AllWritten, List.forall_mem_append,
        List.forall_mem_cons] at success
      obtain ⟨_, conditionWritten, _, resultWritten, rest⟩ := success
      have first := conditions.1.free conditionWritten
      have second := results.1.free resultWritten
      have others := induction conditions.2 results.2 rest
      simp [partsOfBranches, writtenOfBranches, Term.tokensOfBranches, first,
        second, others, when_, then_]

theorem tokens_else {otherwise? : Option Node}
    (writes : ∀ result ∈ otherwise?, config.WritesTerm table result)
    (success : Part.AllWritten config (config.partsOfElse otherwise?)) :
    (config.partsOfElse otherwise?).flatMap (Part.tokens config) =
      Term.tokensOfElse table (config.writtenOfElse otherwise?) := by
  have else_ : (Part.verbatim " ELSE ").tokens config = [.word "ELSE"] :=
    Part.tokens_verbatim (by decide)
  cases otherwise? with
  | none => rfl
  | some result =>
      have written := (writes result rfl).free
        (List.forall_mem_cons.mp success).2
      simp [partsOfElse, writtenOfElse, Term.tokensOfElse, written, else_]

variable {left right : Node}

theorem registered (describes : table.Describes config) {kind : String}
    (known : kind ∈ table.kinds) (leftWrites : config.WritesTerm table left)
    (rightWrites : config.WritesTerm table right) :
    config.WritesTerm table (.binary kind left right) := by
  obtain ⟨core, symbol, left?, right?, found, read⟩ :=
    describes.form _ (OperatorTable.token_registered known)
  have symbolTokens :
      (Part.verbatim (" " ++ symbol ++ " ")).tokens config =
        (Link.infixed (.registered kind)).tokens table := tokens_between read
  have parts (position : Position) :
      config.partsAt position (.binary kind left right) =
        position.placed (.binary kind left right)
          (config.partsAt (.operand .other none false) left ++
            .verbatim (" " ++ symbol ++ " ") ::
              config.partsAt (.operand .other none true) right) := by
    simp only [partsAt, core, found]
  refine ofPlaced (fun position _ => parts position)
    (fun position => writtenAt_registered core) fun written => ?_
  obtain ⟨leftWritten, rest⟩ := List.forall_mem_append.mp written
  have first := leftWrites.operand leftWritten
  have second := rightWrites.operand (List.forall_mem_cons.mp rest).2
  simp [Term.tokens, first, second, symbolTokens]

variable {kind : String} {operator : BinaryOperator}

theorem connective (named : BinaryOperator.ofKind? kind = some operator)
    (plain : operator ∈ plainOperators) (joins : operator.isConnective)
    (leftWrites : config.WritesTerm table left)
    (rightWrites : config.WritesTerm table right) :
    config.WritesTerm table (.binary kind left right) := by
  have symbol : (Part.verbatim (" " ++ operator.symbol ++ " ")).tokens
      config = (Link.infixed (.core operator)).tokens table :=
    tokens_symbol plain
  have joint : (Position.chained operator false).joint =
      [.verbatim (" " ++ operator.symbol ++ " ")] := rfl
  have unchained (leads : Bool) : Position.chained operator leads ≠ .bounds := by
    intro bounds
    cases bounds
  intro position unbound success
  rw [partsAt_connective named joins unbound] at success ⊢
  rw [writtenAt_connective named joins]
  by_cases continues : position.continues operator
  · rw [if_pos continues] at success ⊢
    rw [if_pos continues]
    obtain ⟨leftWritten, rightWritten⟩ := List.forall_mem_append.mp success
    have first := leftWrites position unbound leftWritten
    have second := rightWrites (.chained operator false)
      (unchained false) rightWritten
    simp [Term.tokens, first, second, symbol, joint]
  · rw [if_neg continues] at success ⊢
    rw [if_neg continues]
    apply Position.flatMap_tokens_placed
    obtain ⟨leftWritten, rightWritten⟩ :=
      List.forall_mem_append.mp (Position.allWritten_of_placed success)
    have lead : (Position.chained operator true).joint = [] := rfl
    have first := leftWrites (.chained operator true)
      (unchained true) leftWritten
    have second := rightWrites (.chained operator false)
      (unchained false) rightWritten
    simp [Term.tokens, first, second, symbol, joint, lead]

theorem plain (named : BinaryOperator.ofKind? kind = some operator)
    (plain : operator ∈ plainOperators)
    (apart : operator.isConnective = false)
    (leftWrites : config.WritesTerm table left)
    (rightWrites : config.WritesTerm table right) :
    config.WritesTerm table (.binary kind left right) := by
  refine ofPlaced (fun position _ => partsAt_operator named apart)
    (fun position => writtenAt_plain named plain apart) fun written => ?_
  obtain ⟨leftWritten, rest⟩ := List.forall_mem_append.mp written
  have first := leftWrites.operand leftWritten
  cases null : operator.testsNull && right.isNull with
  | true =>
      have test : (Part.verbatim operator.nullTest).tokens config =
          (Link.nullTest (operator = .notEq)).tokens table :=
        tokens_nullTest (Bool.and_eq_true _ _ ▸ null).1
      simp [Term.tokens, first, test]
  | false =>
      have different : operator ≠ .between := by
        rintro rfl
        simp [plainOperators] at plain
      have symbol : (Part.verbatim (" " ++ operator.symbol ++ " ")).tokens
          config = (Link.infixed (.core operator)).tokens table :=
        tokens_symbol plain
      simp only [null, different, Bool.false_eq_true, ↓reduceIte] at rest ⊢
      have second := rightWrites.operand (List.forall_mem_cons.mp rest).2
      simp [Term.tokens, first, second, symbol]

theorem between {operand low high : Node}
    (writes : config.WritesTerm table operand)
    (lowWrites : config.WritesTerm table low)
    (highWrites : config.WritesTerm table high) :
    config.WritesTerm table
      (.binary "BETWEEN" operand (.binary "AND" low high)) := by
  have named : BinaryOperator.ofKind? "BETWEEN" = some .between := rfl
  have word : (Part.verbatim " BETWEEN ").tokens config =
      [.word "BETWEEN"] := Part.tokens_verbatim (by decide)
  have and : (Part.verbatim " AND ").tokens config = [.word "AND"] :=
    Part.tokens_verbatim (by decide)
  have bounds : config.partsAt .bounds (.binary "AND" low high) =
      config.partsAt (.operand .range (some .between) false) low ++
        .verbatim " AND " ::
          config.partsAt (.operand .range (some .between) true) high := by
    simp [partsAt, BinaryOperator.ofKind?]
  refine ofPlaced (fun position _ => partsAt_operator named rfl)
    (fun position => rfl) fun written => ?_
  simp only [BinaryOperator.testsNull, Bool.false_and, Bool.false_eq_true,
    ↓reduceIte, bounds, Part.AllWritten, List.forall_mem_append,
    List.forall_mem_cons] at written ⊢
  obtain ⟨operandWritten, _, lowWritten, _, highWritten⟩ := written
  have first := writes.operand operandWritten
  have second := lowWrites.operand lowWritten
  have third := highWrites.operand highWritten
  simp [Term.tokens, Link.tokens, first, second, third, word, and]

theorem member {operand : Node} {items : List Node} (negated : Bool)
    (named : BinaryOperator.ofKind? kind =
      some (if negated then .notInList else .inList))
    (writes : config.WritesTerm table operand)
    (itemsWrite : ∀ item ∈ items, config.WritesTerm table item) :
    config.WritesTerm table (.binary kind operand (.group (.list items))) := by
  generalize same : (if negated then BinaryOperator.notInList else .inList) =
    operator at named
  have apart : operator.isConnective = false ∧ operator.testsNull = false ∧
      operator ≠ .between ∧ operator.precedence = .range := by
    cases negated <;> subst same <;> decide
  have word : (Part.verbatim (" " ++ operator.symbol ++ " ")).tokens config ++
      [.mark '('] = (Link.member negated).tokens table := by
    have single : scan " IN " = some [.word "IN"] := by decide
    have double : scan " NOT IN " = some [.word "NOT", .word "IN"] := by
      decide
    cases negated with
    | false =>
        subst same
        exact congrArg (· ++ _) (Part.tokens_verbatim single)
    | true =>
        subst same
        exact congrArg (· ++ _) (Part.tokens_verbatim double)
  have opening : (Part.verbatim "(").tokens config = [.mark '('] :=
    Part.tokens_verbatim (by decide)
  have closing : (Part.verbatim ")").tokens config = [.mark ')'] :=
    Part.tokens_verbatim (by decide)
  refine ofPlaced (fun position _ => partsAt_operator named apart.1)
    (fun position => writtenAt_member same named) fun written => ?_
  simp only [apart, Bool.false_and, Bool.false_eq_true, ↓reduceIte,
    partsAt_items, Part.AllWritten, List.forall_mem_append,
    List.forall_mem_cons] at written ⊢
  obtain ⟨operandWritten, _, _, itemsWritten, _⟩ := written
  have first := writes.operand operandWritten
  have second := tokens_join itemsWrite itemsWritten
  simp [Term.tokens, first, second, opening, closing, ← word]

theorem negation {operand : Node} (writes : config.WritesTerm table operand) :
    config.WritesTerm table (.unary "NOT" operand) := by
  have before : (Part.verbatim "NOT (").tokens config =
      [.word "NOT", .mark '('] := Part.tokens_verbatim (by decide)
  have after : (Part.verbatim ")").tokens config = [.mark ')'] :=
    Part.tokens_verbatim (by decide)
  have parts (position : Position) :
      config.partsAt position (.unary "NOT" operand) =
        position.placed (.unary "NOT" operand)
          (.verbatim "NOT (" :: (config.partsAt .free operand ++
            [.verbatim ")"])) := by
    rw [partsAt.eq_def]
    rfl
  refine ofPlaced (fun position _ => parts position) (fun position => rfl)
    fun written => ?_
  have inner := writes.free
    (List.forall_mem_append.mp (List.forall_mem_cons.mp written).2).1
  simp [Term.tokens, inner, before, after]

theorem call (name : String) {arguments : List Node}
    (writes : ∀ argument ∈ arguments, config.WritesTerm table argument) :
    config.WritesTerm table (.call name arguments) := by
  have closing : (Part.verbatim ")").tokens config = [.mark ')'] :=
    Part.tokens_verbatim (by decide)
  refine ofPlaced (fun position _ => by rw [partsAt])
    (fun position => rfl) fun written => ?_
  obtain ⟨⟨text, head⟩, rest⟩ := List.forall_mem_cons.mp written
  have opening : (Part.head name).tokens config = [.word name, .call] :=
    Part.tokens_eq head (Part.completes_head head).reads
  have items := tokens_join writes (List.forall_mem_append.mp rest).1
  simp [Term.tokens, opening, closing, items]

theorem caseWhen {branches : List (Node × Node)} {otherwise? : Option Node}
    (nonempty : branches ≠ [])
    (conditions : ∀ branch ∈ branches, config.WritesTerm table branch.1)
    (results : ∀ branch ∈ branches, config.WritesTerm table branch.2)
    (otherwise : ∀ result ∈ otherwise?, config.WritesTerm table result) :
    config.WritesTerm table (.caseWhen branches otherwise?) := by
  have word : (Part.verbatim "CASE").tokens config = [.word "CASE"] :=
    Part.tokens_verbatim (by decide)
  have closing : (Part.verbatim " END").tokens config = [.word "END"] :=
    Part.tokens_verbatim (by decide)
  have checked : Part.ofCheck (Node.checkCase branches otherwise?) = [] := by
    cases branches with
    | nil => exact absurd rfl nonempty
    | cons branch branches => rfl
  refine ofPlaced (fun position _ => by rw [partsAt, checked])
    (fun position => rfl) fun written => ?_
  simp only [List.nil_append, Part.AllWritten, List.forall_mem_append,
    List.forall_mem_cons] at written ⊢
  obtain ⟨_, branchesWritten, otherwiseWritten, _⟩ := written
  have first := tokens_branches conditions results branchesWritten
  have last := tokens_else otherwise otherwiseWritten
  simp [Term.tokens, first, last, word, closing]

theorem group {inner : Node} (writes : config.WritesTerm table inner) :
    config.WritesTerm table (.group inner) := by
  have opening : (Part.verbatim "(").tokens config = [.mark '('] :=
    Part.tokens_verbatim (by decide)
  have closing : (Part.verbatim ")").tokens config = [.mark ')'] :=
    Part.tokens_verbatim (by decide)
  intro position unbound success
  rw [partsAt] at success ⊢
  rw [writtenAt]
  split
  next joins =>
    rw [if_pos joins] at success
    exact writes position unbound success
  next apart =>
    rw [if_neg apart] at success
    apply Position.flatMap_tokens_placed
    have written := Position.allWritten_of_placed success
    have body := writes.free
      (List.forall_mem_append.mp (List.forall_mem_cons.mp written).2).1
    simp [Term.tokens, body, opening, closing]

end WritesTerm

/-- The tokens of an expression are those of the term that it is written as. -/
theorem writesTerm (describes : table.Describes config) {node : Node}
    (expression : node.IsExpression table) : config.WritesTerm table node := by
  induction expression with
  | column table? name =>
      exact .ofPlaced (fun position _ => by rw [partsAt]) (fun position => rfl)
        fun _ => by simp [Term.tokens]
  | literal value =>
      exact .ofPlaced (fun position _ => by rw [partsAt]) (fun position => rfl)
        fun _ => by simp [Term.tokens]
  | registered known _ _ left right =>
      exact .registered describes known left right
  | @core kind operator _ _ named plain _ _ left right =>
      cases joins : operator.isConnective with
      | true => exact .connective named plain joins left right
      | false => exact .plain named plain joins left right
  | between _ _ _ operand low high => exact .between operand low high
  | inList _ _ _ operand items => exact .member false rfl operand items
  | notInList _ _ _ operand items => exact .member true rfl operand items
  | negation _ operand => exact .negation operand
  | call name _ arguments => exact .call name arguments
  | caseWhen nonempty _ _ _ conditions results otherwise =>
      exact .caseWhen nonempty conditions results otherwise
  | group _ inner => exact .group inner

end Config

end Tokens

end SqlExpr
