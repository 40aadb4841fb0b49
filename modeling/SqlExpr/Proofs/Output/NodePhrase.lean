import SqlExpr.Proofs.Operator.Forms
import SqlExpr.Proofs.Output.Phrase

/-!
# Every node is a phrase

The parts of a node form a phrase wherever the node stands, unless the tree has
SQL text of its own or an operator with a form that the grammar of phrases does
not know.  A configuration that defines the ready-made extensions alone has no
such operator.
-/

namespace SqlExpr

open SqlExpr.Lexis

def OperatorForm.IsLexical : OperatorForm → Prop
  | .infixed symbol => ∃ tokens, Reads symbol.toList tokens ∧ Nests [] [] tokens
  | .template shape =>
    shape = Extension.arrayTemplate "]" ∨
      shape = Extension.arrayTemplate "]::text[]"
  | _ => False

/-- Where a node is not SQL text of its own, and its operator, if it is a
registered one, has a form that the grammar of phrases knows. -/
def Config.IsLexical (config : Config) : Node → Prop
  | .raw _ => False
  | .binary kind _ _ =>
    BinaryOperator.ofKind? kind = none → ∀ definition,
      config.operators.find kind = .ok definition → definition.form.IsLexical
  | .unary kind _ =>
    UnaryOperator.ofKind? kind = none → ∀ definition,
      config.operators.find kind = .ok definition → definition.form.IsLexical
  | _ => True

/-- Every registered operator is one of the ready-made extensions'. -/
def Registry.BuiltinOnly (registry : Registry) : Prop :=
  ∀ kind definition, registry.get? kind = some definition →
    (kind, definition) ∈ Extension.json.definitions

def Config.BuiltinOnly (config : Config) : Prop :=
  config.operators.BuiltinOnly

/-- Whether a node in some position is written behind another one. -/
def Position.isAttached : Position → Bool
  | chained _ false => true
  | _ => false

/-! ## The fixed texts -/

section Texts

variable {text : String}

private theorem completes_of_run
    (ends : (Mode.gap.run text.toList).2 = .gap)
    (plain : ∀ token ∈ (Mode.gap.run text.toList).1, token.isPlain) :
    ∃ tokens, Completes text.toList tokens ∧ Nests [] [] tokens :=
  ⟨_, Prod.ext rfl ends, .ofPlain plain⟩

theorem IsJoint.ofRun (nonempty : text ≠ "") (delimited : Delimited text.toList)
    (ends : (Mode.gap.run text.toList).2 = .gap)
    (plain : ∀ token ∈ (Mode.gap.run text.toList).1, token.isPlain) :
    IsJoint text :=
  ⟨nonempty, delimited, completes_of_run ends plain⟩

theorem IsJoint.symbol (operator : BinaryOperator) :
    IsJoint (" " ++ operator.symbol ++ " ") := by
  cases operator <;>
    exact .ofRun (by decide) (by decide) (by decide) (by decide)

/-- A symbol that can be read by itself is a joint between blanks. -/
theorem IsJoint.between {tokens : List Token}
    (read : Reads text.toList tokens) (nests : Nests [] [] tokens) :
    IsJoint (" " ++ text ++ " ") := by
  have delimited : Delimited [' '] := rfl
  have front : (" " ++ text ++ " ").toList = [' '] ++ (text.toList ++ [' ']) := by
    simp
  refine ⟨fun empty => ?_, ?_, tokens, read.between_blanks, nests⟩
  · have characters := congrArg String.toList empty
    simp at characters
  · rw [front]
    exact delimited.append (by simp) _

theorem IsJoint.comma : IsJoint ", " :=
  .ofRun (by decide) (by decide) (by decide) (by decide)

theorem IsEnding.parenthesis : IsEnding [')'] ")" where
  nonempty := by decide
  delimited := rfl
  readable := ⟨[.mark ')'], ⟨_, _, _, rfl, rfl, rfl⟩,
    by decide, fun _ => rfl⟩

theorem IsEnding.nullTest (operator : BinaryOperator) :
    IsEnding [] operator.nullTest := by
  cases operator <;>
    exact ⟨by decide, by decide, _, ⟨_, _, _, rfl, rfl, rfl⟩,
      .ofPlain (by decide)⟩

theorem IsEnding.array {close : String}
    (known : close = "]" ∨ close = "]::text[]") : IsEnding [']'] close := by
  rcases known with rfl | rfl <;>
    exact ⟨by decide, by decide, _, ⟨_, _, _, rfl, rfl, rfl⟩,
      by decide, fun _ => rfl⟩

end Texts

namespace Phrase

theorem parenthesized {parts : List Part} (phrase : Phrase false parts) :
    Phrase false (.verbatim "(" :: (parts ++ [.verbatim ")"])) :=
  enclosed ')' ⟨[.mark '('], rfl, by decide, fun _ => rfl⟩ .parenthesis phrase

theorem placed {position : Position} {node : Node} {body : List Part}
    (phrase : Phrase false body) :
    Phrase position.isAttached (position.placed node body) := by
  have inner : Phrase false
      (if position.parenthesizes node then
        .verbatim "(" :: (body ++ [.verbatim ")"])
      else body) := by
    split
    · exact parenthesized phrase
    · exact phrase
  unfold Position.placed
  obtain _ | _ | ⟨connective, _ | _⟩ | _ := position
  · exact inner
  · exact inner
  · exact joined _ (.symbol connective) inner
  · exact inner
  · exact inner

theorem join {separator : String} (isJoint : IsJoint separator)
    {sequences : List (List Part)}
    (phrases : ∀ parts ∈ sequences, Phrase false parts) :
    Phrase false (Part.join separator sequences) := by
  induction sequences with
  | nil => exact .nil
  | cons parts rest induction =>
      rw [List.forall_mem_cons] at phrases
      cases rest with
      | nil => exact phrases.1
      | cons next rest =>
          exact phrases.1.append (joined _ isJoint (induction phrases.2))

theorem ofCheck {check : ExprResult Unit} {parts : List Part}
    (phrase : Phrase false parts) :
    Phrase false (Part.ofCheck check ++ parts) := by
  cases check with
  | error error => exact failing error phrase
  | ok => exact phrase

theorem surrounded (operator : UnaryOperator) {parts : List Part}
    (phrase : Phrase false parts) :
    Phrase false (Part.ofText operator.surroundings.1 ++
      (parts ++ Part.ofText operator.surroundings.2)) := by
  cases operator with
  | not =>
      exact enclosed ')' ⟨[.word "NOT", .mark '('], rfl, by decide,
        fun _ => rfl⟩ .parenthesis phrase
  | asc | desc =>
      exact phrase.append (ending _ ⟨by decide, by decide, _,
        ⟨_, _, _, rfl, rfl, rfl⟩, .ofPlain (by decide)⟩)
  | interval | crossJoin =>
      have bare : parts ++ Part.ofText "" = parts := List.append_nil parts
      simp only [UnaryOperator.surroundings, bare]
      exact leading _ (completes_of_run (by decide) (by decide)) phrase

theorem array {close : String} {style : BooleanStyle}
    {items : List (List Part)}
    (known : close = "]" ∨ close = "]::text[]")
    (phrases : ∀ parts ∈ items, Phrase false parts) :
    Phrase false (Piece.allParts style (SinglePlace.parts items)
      (Extension.arrayTemplate close).single) := by
  have comma : IsJoint "," :=
    .ofRun (by decide) (by decide) (by decide) (by decide)
  have opens : (Part.verbatim "ARRAY[").Opens ']' :=
    ⟨[.word "ARRAY", .mark '['], rfl, by decide, fun _ => rfl⟩
  simpa [Piece.allParts, Piece.parts, Extension.arrayTemplate,
    SinglePlace.parts] using
    enclosed ']' opens (.array known) (join comma phrases)

end Phrase

/-! ## The nodes -/

namespace Config

variable (config : Config)

section Operators

variable {config} {position : Position} {kind : String}
  {left right operand : Node}

theorem phraseAt_binary (own : config.IsLexical (.binary kind left right))
    (leftPhrase : ∀ position,
      Phrase position.isAttached (config.partsAt position left))
    (rightPhrase : ∀ position,
      Phrase position.isAttached (config.partsAt position right)) :
    Phrase position.isAttached
      (config.partsAt position (.binary kind left right)) := by
  have operands (precedence : Precedence) (operator? : Option BinaryOperator) :
      Phrase false
          (config.partsAt (.operand precedence operator? false) left) ∧
        Phrase false
          (config.partsAt (.operand precedence operator? true) right) :=
    ⟨leftPhrase (.operand precedence operator? false),
      rightPhrase (.operand precedence operator? true)⟩
  simp only [partsAt]
  cases core : BinaryOperator.ofKind? kind with
  | none =>
      refine .placed ?_
      cases found : config.operators.find kind with
      | error error => exact .failing error (.nil : Phrase false [])
      | ok definition =>
          have known := own core definition found
          obtain ⟨form, left?, right?⟩ := definition
          cases form with
          | infixed symbol =>
              obtain ⟨tokens, read, nests⟩ := known
              obtain ⟨first, second⟩ := operands .other none
              exact first.append (.joined _ (.between read nests) second)
          | template shape =>
              rcases known with rfl | rfl <;>
                exact .failing _ (.nil : Phrase false [])
          | prefixed symbol => exact known.elim
          | postfixed symbol => exact known.elim
  | some operator =>
      have tail : Phrase true
          (config.partsAt (.chained operator false) right) :=
        rightPhrase (.chained operator false)
      simp only []
      split
      · obtain ⟨first, second⟩ := operands .range (some .between)
        exact first.append (.joined _ (.symbol .and) second)
      · split
        · split
          · exact (leftPhrase position).append tail
          · have lead : Phrase false
                (config.partsAt (.chained operator true) left) :=
              leftPhrase (.chained operator true)
            exact .placed (lead.append tail)
        · obtain ⟨first, second⟩ :=
            operands operator.precedence (some operator)
          refine .placed (first.append ?_)
          split
          · exact .ending _ (.nullTest operator)
          · split
            · have bounds : Phrase false (config.partsAt .bounds right) :=
                rightPhrase .bounds
              exact .joined _ (.symbol .between) bounds
            · exact .joined _ (.symbol operator) second

/-- The items of a list are written without the list itself. -/
theorem phraseAt_unary (own : config.IsLexical (.unary kind operand))
    (operandPhrase : Phrase false (config.partsAt .free operand))
    (itemPhrases : ∀ items, operand = .list items →
      ∀ parts ∈ config.partsOfAll items, Phrase false parts) :
    Phrase position.isAttached
      (config.partsAt position (.unary kind operand)) := by
  rw [partsAt.eq_def]
  simp only []
  refine .placed ?_
  cases core : UnaryOperator.ofKind? kind with
  | some operator => exact .surrounded operator operandPhrase
  | none =>
      cases found : config.operators.find kind with
      | error error => exact .failing error (.nil : Phrase false [])
      | ok definition =>
          have known := own core definition found
          obtain ⟨form, left?, right?⟩ := definition
          cases form with
          | infixed symbol => exact .failing _ (.nil : Phrase false [])
          | template shape =>
              have array {items : List (List Part)}
                  (phrases : ∀ parts ∈ items, Phrase false parts) :
                  Phrase false (Piece.allParts config.booleanStyle
                    (SinglePlace.parts items) shape.single) := by
                rcases known with rfl | rfl
                · exact .array (.inl rfl) phrases
                · exact .array (.inr rfl) phrases
              cases operand with
              | list items => exact array (itemPhrases items rfl)
              | _ => exact array (List.forall_mem_singleton.mpr operandPhrase)
          | prefixed symbol => exact known.elim
          | postfixed symbol => exact known.elim

end Operators

mutual

theorem phraseAt (position : Position) (node : Node)
    (lexical : node.All config.IsLexical) :
    Phrase position.isAttached (config.partsAt position node) := by
  cases node with
  | column table? name =>
      simp only [partsAt]
      exact .placed (.atom _ trivial)
  | literal value sqlType? =>
      simp only [partsAt]
      cases sqlType? with
      | none => exact .placed (.atom _ trivial)
      | some sqlType =>
          exact .placed ((Phrase.atom (.value value) trivial).append
            (.cast sqlType))
  | binary kind left right =>
      obtain ⟨own, leftLexical, rightLexical⟩ := Node.All.binary.mp lexical
      apply phraseAt_binary own
      · intro position
        exact phraseAt position left leftLexical
      · intro position
        exact phraseAt position right rightLexical
  | unary kind operand =>
      obtain ⟨own, operandLexical⟩ := Node.All.unary.mp lexical
      apply phraseAt_unary own
      · exact phraseAt .free operand operandLexical
      · cases operand with
        | list items =>
            rintro _ ⟨⟩
            exact phrasesOfAll items (Node.All.list.mp operandLexical).2
        | _ => rintro _ ⟨⟩
  | call name arguments =>
      simp only [Node.All.call] at lexical
      simp only [partsAt]
      exact .placed (.enclosed ')' rfl .parenthesis
        (.join .comma (phrasesOfAll arguments lexical.2)))
  | caseWhen branches otherwise? =>
      simp only [Node.All.caseWhen] at lexical
      obtain ⟨_, branchesLexical, otherwiseLexical⟩ := lexical
      have opening : Phrase false [.verbatim "CASE"] :=
        .atom _ ⟨_, ⟨_, _, _, rfl, rfl, rfl⟩, .ofPlain (by decide)⟩
      have closing : Phrase true [.verbatim " END"] :=
        .ending _ ⟨by decide, by decide, _, ⟨_, _, _, rfl, rfl, rfl⟩,
          .ofPlain (by decide)⟩
      have middle := phraseOfBranches branches branchesLexical
      have last := phraseOfElse otherwise? otherwiseLexical
      simp only [partsAt]
      exact .placed (.ofCheck
        (opening.append (middle.append (last.append closing))))
  | group inner =>
      simp only [Node.All.group] at lexical
      simp only [partsAt]
      split
      · exact phraseAt position inner lexical.2
      · exact .placed (.parenthesized (phraseAt .free inner lexical.2))
  | list items =>
      simp only [Node.All.list] at lexical
      simp only [partsAt]
      exact .placed (.join .comma (phrasesOfAll items lexical.2))
  | aliased relation name =>
      simp only [Node.All.aliased] at lexical
      simp only [partsAt]
      have blank : IsJoint " " :=
        .ofRun (by decide) (by decide) (by decide) (by decide)
      exact .placed ((phraseAt .free relation lexical.2).append
        (.joined _ blank (.atom _ trivial)))
  | raw sql =>
      simp only [Node.All.raw] at lexical
      exact lexical.elim

theorem phrasesOfAll (nodes : List Node)
    (lexical : ∀ node ∈ nodes, node.All config.IsLexical) :
    ∀ parts ∈ config.partsOfAll nodes, Phrase false parts := by
  cases nodes with
  | nil => simp [partsOfAll]
  | cons node nodes =>
      rw [List.forall_mem_cons] at lexical
      simp only [partsOfAll, List.forall_mem_cons]
      exact ⟨phraseAt .free node lexical.1, phrasesOfAll nodes lexical.2⟩

theorem phraseOfBranches (branches : List (Node × Node))
    (lexical : ∀ branch ∈ branches,
      branch.1.All config.IsLexical ∧ branch.2.All config.IsLexical) :
    Phrase true (config.partsOfBranches branches) := by
  cases branches with
  | nil => exact .nil
  | cons branch branches =>
      obtain ⟨condition, result⟩ := branch
      rw [List.forall_mem_cons] at lexical
      obtain ⟨⟨conditionLexical, resultLexical⟩, restLexical⟩ := lexical
      have rest := phraseOfBranches branches restLexical
      have conditionPhrase := phraseAt .free condition conditionLexical
      have resultPhrase := phraseAt .free result resultLexical
      have whenJoint : IsJoint " WHEN " :=
        .ofRun (by decide) (by decide) (by decide) (by decide)
      have thenJoint : IsJoint " THEN " :=
        .ofRun (by decide) (by decide) (by decide) (by decide)
      simp only [partsOfBranches]
      exact .joined _ whenJoint (conditionPhrase.append
        (.joined _ thenJoint (resultPhrase.append rest)))

theorem phraseOfElse (otherwise? : Option Node)
    (lexical : ∀ result ∈ otherwise?, result.All config.IsLexical) :
    Phrase true (config.partsOfElse otherwise?) := by
  cases otherwise? with
  | none => exact .nil
  | some result =>
      have elseJoint : IsJoint " ELSE " :=
        .ofRun (by decide) (by decide) (by decide) (by decide)
      exact .joined _ elseJoint (phraseAt .free result (lexical result rfl))

end

end Config

/-! ## The ready-made extensions -/

namespace Registry.BuiltinOnly

variable {registry : Registry}

theorem empty : Registry.empty.BuiltinOnly := by
  intro kind definition found
  cases found

theorem define (builtin : registry.BuiltinOnly) {kind : String}
    {definition : OperatorDefinition}
    (known : (kind, definition) ∈ Extension.json.definitions) :
    (registry.define kind definition).BuiltinOnly := by
  intro other own found
  simp only [Registry.define, Registry.get?, Keyed.get?_insert] at found
  split at found
  · next same =>
      cases found
      rw [same]
      exact known
  · exact builtin other own found

theorem install (builtin : registry.BuiltinOnly) (extension : Extension) :
    (extension.install registry).BuiltinOnly := by
  apply Extension.install_induction BuiltinOnly builtin
  intro registry entry member builtin
  apply builtin.define
  cases extension with
  | array => exact List.mem_append_left _ member
  | json => exact member

end Registry.BuiltinOnly

namespace Config

theorem postgres_builtinOnly : postgres.BuiltinOnly :=
  (Registry.BuiltinOnly.empty.install .array).install .json

variable {config : Config}

private theorem isLexical_of_find (builtin : config.BuiltinOnly)
    {kind : String} {definition : OperatorDefinition}
    (found : config.operators.find kind = .ok definition) :
    definition.form.IsLexical := by
  have entered : config.operators.get? kind = some definition := by
    unfold Registry.find at found
    split at found
    · next own entered =>
        cases found
        exact entered
    · cases found
  have symbol {text : String} (plain :
      ∀ token ∈ (Mode.gap.run text.toList).1 ++
        ((Mode.gap.run text.toList).2.pending?.getD []), token.isPlain)
      (pause : (Mode.gap.run text.toList).2.pending?.isSome) :
      (OperatorForm.infixed text).IsLexical := by
    obtain ⟨pending, pause⟩ := Option.isSome_iff_exists.mp pause
    rw [pause] at plain
    exact ⟨_, .ofPause pause, .ofPlain plain⟩
  have known := builtin kind definition entered
  simp only [Extension.definitions, Extension.arrayDefinitions,
    Extension.jsonDefinitions, List.cons_append, List.nil_append,
    List.mem_cons, List.not_mem_nil, or_false, Prod.mk.injEq] at known
  rcases known with ⟨_, rfl⟩ | ⟨_, rfl⟩ | ⟨_, rfl⟩ | ⟨_, rfl⟩ | ⟨_, rfl⟩ | ⟨_, rfl⟩
  · exact .inr rfl
  · exact .inl rfl
  all_goals exact symbol (by decide) (by decide)

theorem isLexical_of_builtinOnly (builtin : config.BuiltinOnly) {node : Node}
    (noRaw : ∀ sql, node ≠ .raw sql) : config.IsLexical node := by
  cases node with
  | binary kind left right =>
      exact fun _ definition => isLexical_of_find builtin
  | unary kind operand =>
      exact fun _ definition => isLexical_of_find builtin
  | raw sql => exact noRaw sql rfl
  | _ => trivial

theorem all_isLexical (builtin : config.BuiltinOnly) {node : Node}
    (noRaw : node.WithoutRaw) : node.All config.IsLexical :=
  fun inner member => isLexical_of_builtinOnly builtin (noRaw inner member)

theorem phrase_of_builtinOnly (builtin : config.BuiltinOnly) {node : Node}
    (noRaw : node.WithoutRaw) : Phrase false (config.parts node) :=
  config.phraseAt .free node (all_isLexical builtin noRaw)

end Config

end SqlExpr
