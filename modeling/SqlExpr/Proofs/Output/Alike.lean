import Mathlib.Data.List.Forall2
import SqlExpr.Proofs.Node.Subnodes
import SqlExpr.Proofs.Node.Values
import SqlExpr.Proofs.Operator.Forms
import SqlExpr.Proofs.Output.Part

/-!
# Trees that are written alike

Which parts a tree has does not depend on its values, and on its configuration
only through the forms of the operators that occur in it.  So if two
configurations have these forms in common, the parts of a tree correspond one
by one to those of the tree with other values, and where the corresponding
parts are written in the same way, so are the trees.
-/

namespace SqlExpr

open List (Forall₂ rel_append)

/-- The kind of a node's operator. -/
def Node.operatorKind? : Node → Option String
  | .binary kind _ _ | .unary kind _ => some kind
  | _ => none

/-- Whether a part is the text of a value. -/
def Part.holdsValue : Part → Bool
  | .value _ | .constant _ => true
  | _ => false

/-- Whether a piece of a template is the same for both spellings of truth
values. -/
def Piece.isPlain {place : Type} : Piece place → Bool
  | .styled .. | .value _ => false
  | _ => true

theorem OperatorForm.IsStandard.isPlain {shape : Template}
    (standard : (OperatorForm.template shape).IsStandard) :
    (∀ piece ∈ shape.single, piece.isPlain) ∧
      ∀ piece ∈ shape.pair, piece.isPlain := by
  obtain rfl | rfl := standard <;>
    simp [Extension.arrayTemplate, Piece.isPlain]

theorem Rendering.ofParts_congr {config other : Config}
    {first second : List Part}
    (same : Forall₂ (fun part own => part.render config = own.render other)
      first second) :
    ofParts config first = ofParts other second := by
  induction same with
  | nil => rfl
  | cons head _ rest =>
      rw [ofParts_cons, head, rest]
      rfl

namespace Config

/-- All operators of a tree have one form in both configurations, or none. -/
def SameForms (config other : Config) (node : Node) : Prop :=
  node.All fun inner => ∀ kind ∈ inner.operatorKind?,
    config.operators.form? kind = other.operators.form? kind

/-- A relation between the parts that two configurations write: it holds of a
changed value and the value itself, and of any other part and the same part.
If the configurations spell truth values in two ways, no template depends on
the spelling. -/
structure Pairing (config other : Config) (change : Value → Value)
    (pairs : Part → Part → Prop) : Prop where
  isNull : ∀ value, (change value).isNull = value.isNull
  value : ∀ value, pairs (.value (change value)) (.value value)
  fixed : ∀ part, part.holdsValue = false → pairs part part
  constant : config.booleanStyle = other.booleanStyle →
    ∀ value, pairs (.constant value) (.constant value)
  templates : config.booleanStyle = other.booleanStyle ∨
    other.operators.HasStandardForms

namespace Pairing

variable {config other : Config} {change : Value → Value}
  {pairs : Part → Part → Prop}

section Parts

variable (pairing : config.Pairing other change pairs)
include pairing

theorem fixedAll {parts : List Part}
    (fixed : ∀ part ∈ parts, part.holdsValue = false) :
    Forall₂ pairs parts parts :=
  List.forall₂_same.mpr fun part among => pairing.fixed part (fixed part among)

theorem cons {part : Part} (fixed : part.holdsValue = false)
    {first second : List Part} (rest : Forall₂ pairs first second) :
    Forall₂ pairs (part :: first) (part :: second) :=
  .cons (pairing.fixed part fixed) rest

theorem ending {part : Part} (fixed : part.holdsValue = false)
    {first second : List Part} (body : Forall₂ pairs first second) :
    Forall₂ pairs (first ++ [part]) (second ++ [part]) :=
  rel_append body (pairing.cons fixed .nil)

theorem placed (position : Position) (node : Node) {first second : List Part}
    (body : Forall₂ pairs first second) :
    Forall₂ pairs (position.placed (node.mapValues change) first)
      (position.placed node second) := by
  have joint : Forall₂ pairs position.joint position.joint := by
    apply pairing.fixedAll
    obtain _ | _ | ⟨connective, _ | _⟩ | _ := position <;>
      simp [Position.joint, Part.holdsValue]
  unfold Position.placed
  rw [Position.parenthesizes_mapValues]
  refine rel_append joint ?_
  split
  · exact pairing.cons rfl (pairing.ending rfl body)
  · exact body

theorem join (separator : String) {first second : List (List Part)}
    (items : Forall₂ (Forall₂ pairs) first second) :
    Forall₂ pairs (Part.join separator first)
      (Part.join separator second) := by
  induction items with
  | nil => exact .nil
  | cons item items rest =>
      cases items with
      | nil => exact item
      | cons => exact rel_append item (pairing.cons rfl rest)

theorem ofText (text : String) :
    Forall₂ pairs (Part.ofText text) (Part.ofText text) := by
  apply pairing.fixedAll
  unfold Part.ofText
  split <;> simp [Part.holdsValue]

theorem ofCheck (check : ExprResult Unit) :
    Forall₂ pairs (Part.ofCheck check) (Part.ofCheck check) := by
  apply pairing.fixedAll
  cases check <;> simp [Part.ofCheck, Part.holdsValue]

theorem allParts {place : Type} {pieces : List (Piece place)}
    (plain : config.booleanStyle = other.booleanStyle ∨
      ∀ piece ∈ pieces, piece.isPlain)
    {first second : place → List Part}
    (fill : ∀ place, Forall₂ pairs (first place) (second place)) :
    Forall₂ pairs (Piece.allParts config.booleanStyle first pieces)
      (Piece.allParts other.booleanStyle second pieces) := by
  induction pieces with
  | nil => exact .nil
  | cons piece pieces induction =>
      have others := induction
        (plain.imp_right fun all => (List.forall_mem_cons.mp all).2)
      have own := plain.imp_right fun all => (List.forall_mem_cons.mp all).1
      refine rel_append ?_ others
      cases piece with
      | text | fail => exact pairing.cons rfl .nil
      | operand place => exact fill place
      | styled keyword numeric =>
          obtain same | plain := own
          · rw [same]
            exact pairing.cons rfl .nil
          · cases plain
      | value held =>
          obtain same | plain := own
          · exact .cons (pairing.constant same held) .nil
          · cases plain

theorem single {kind : String} {shape : Template}
    (known : other.operators.form? kind = some (.template shape))
    {first second : List (List Part)}
    (items : Forall₂ (Forall₂ pairs) first second) :
    Forall₂ pairs
      (Piece.allParts config.booleanStyle (SinglePlace.parts first)
        shape.single)
      (Piece.allParts other.booleanStyle (SinglePlace.parts second)
        shape.single) := by
  apply pairing.allParts
  · exact pairing.templates.imp_right fun standard =>
      (standard kind _ known).isPlain.1
  · rintro (_ | separator)
    · exact pairing.join ", " items
    · exact pairing.join separator items

theorem pair {kind : String} {shape : Template}
    (known : other.operators.form? kind = some (.template shape))
    {left left' right right' : List Part} (lefts : Forall₂ pairs left left')
    (rights : Forall₂ pairs right right') :
    Forall₂ pairs
      (Piece.allParts config.booleanStyle (PairPlace.parts left right)
        shape.pair)
      (Piece.allParts other.booleanStyle (PairPlace.parts left' right')
        shape.pair) := by
  apply pairing.allParts
  · exact pairing.templates.imp_right fun standard =>
      (standard kind _ known).isPlain.2
  · rintro (_ | _)
    · exact lefts
    · exact rights

theorem binary {position : Position} {kind : String} {left right : Node}
    (same : config.operators.form? kind = other.operators.form? kind)
    (lefts : ∀ position, Forall₂ pairs
      (config.partsAt position (left.mapValues change))
      (other.partsAt position left))
    (rights : ∀ position, Forall₂ pairs
      (config.partsAt position (right.mapValues change))
      (other.partsAt position right)) :
    Forall₂ pairs
      (config.partsAt position ((Node.binary kind left right).mapValues change))
      (other.partsAt position (.binary kind left right)) := by
  have null := Node.isNull_mapValues pairing.isNull right
  have placed {first second : List Part}
      (body : Forall₂ pairs first second) :=
    pairing.placed position (.binary kind left right) body
  simp only [Node.mapValues] at placed ⊢
  simp only [partsAt, null]
  cases BinaryOperator.ofKind? kind with
  | none =>
      apply placed
      obtain ⟨error, found, otherFound⟩ |
        ⟨definition, second, found, otherFound, form⟩ :=
        Registry.find_of_form? same
      · rw [found, otherFound]
        exact pairing.cons rfl .nil
      · have known := Registry.form?_of_find otherFound
        rw [found, otherFound]
        simp only [form]
        cases own : second.form with
        | infixed symbol =>
            exact rel_append (lefts _) (pairing.cons rfl (rights _))
        | template shape =>
            rw [own] at known
            exact pairing.pair known (lefts .free) (rights .free)
        | prefixed | postfixed => exact pairing.cons rfl .nil
  | some operator =>
      simp only []
      split
      · exact rel_append (lefts _) (pairing.cons rfl (rights _))
      · split
        · split
          · exact rel_append (lefts _) (rights _)
          · exact placed (rel_append (lefts _) (rights _))
        · refine placed (rel_append (lefts _) ?_)
          split
          · exact pairing.cons rfl .nil
          · split
            · exact pairing.cons rfl (rights _)
            · exact pairing.cons rfl (rights _)

/-- The items of a list are written without the list itself. -/
theorem unary {position : Position} {kind : String} {operand : Node}
    (same : config.operators.form? kind = other.operators.form? kind)
    (whole : Forall₂ pairs (config.partsAt .free (operand.mapValues change))
      (other.partsAt .free operand))
    (parts : ∀ items, operand = .list items → Forall₂ (Forall₂ pairs)
      (config.partsOfAll (Node.mapValuesOfAll change items))
      (other.partsOfAll items)) :
    Forall₂ pairs
      (config.partsAt position ((Node.unary kind operand).mapValues change))
      (other.partsAt position (.unary kind operand)) := by
  have placed {first second : List Part}
      (body : Forall₂ pairs first second) :=
    pairing.placed position (.unary kind operand) body
  simp only [Node.mapValues] at placed ⊢
  rw [partsAt.eq_def, partsAt.eq_def]
  apply placed
  cases UnaryOperator.ofKind? kind with
  | some operator =>
      exact rel_append (pairing.ofText _)
        (rel_append whole (pairing.ofText _))
  | none =>
      obtain ⟨error, found, otherFound⟩ |
        ⟨definition, second, found, otherFound, form⟩ :=
        Registry.find_of_form? same
      · rw [found, otherFound]
        exact pairing.cons rfl .nil
      · have known := Registry.form?_of_find otherFound
        rw [found, otherFound]
        simp only [form]
        cases own : second.form with
        | prefixed symbol => exact pairing.cons rfl whole
        | postfixed symbol => exact pairing.ending rfl whole
        | infixed symbol => exact pairing.cons rfl .nil
        | template shape =>
            rw [own] at known
            apply pairing.single known
            cases operand with
            | list items => exact parts items rfl
            | _ => exact .cons whole .nil

end Parts

mutual

theorem partsAt_mapValues (pairing : config.Pairing other change pairs)
    (position : Position) (node : Node) (same : config.SameForms other node) :
    Forall₂ pairs (config.partsAt position (node.mapValues change))
      (other.partsAt position node) := by
  have placed {first second : List Part}
      (body : Forall₂ pairs first second) :=
    pairing.placed position node body
  cases node with
  | column table? name =>
      simp only [Node.mapValues, partsAt] at placed ⊢
      exact placed (pairing.cons rfl .nil)
  | literal value sqlType? =>
      simp only [Node.mapValues, partsAt] at placed ⊢
      refine placed (.cons (pairing.value value) (pairing.fixedAll ?_))
      cases sqlType? <;> simp [Part.holdsValue]
  | binary kind left right =>
      obtain ⟨own, leftSame, rightSame⟩ := Node.All.binary.mp same
      apply pairing.binary (own kind rfl)
      · intro position
        exact partsAt_mapValues pairing position left leftSame
      · intro position
        exact partsAt_mapValues pairing position right rightSame
  | unary kind operand =>
      obtain ⟨own, operandSame⟩ := Node.All.unary.mp same
      apply pairing.unary (own kind rfl)
      · exact partsAt_mapValues pairing .free operand operandSame
      · cases operand with
        | list items =>
            rintro _ ⟨⟩
            exact partsOfAll_mapValues pairing items
              (Node.All.list.mp operandSame).2
        | _ => rintro _ ⟨⟩
  | call name arguments =>
      have items := partsOfAll_mapValues pairing arguments
        (Node.All.call.mp same).2
      simp only [Node.mapValues, partsAt] at placed ⊢
      exact placed (pairing.cons rfl
        (pairing.ending rfl (pairing.join ", " items)))
  | caseWhen branches otherwise? =>
      obtain ⟨_, branchesSame, elseSame⟩ := Node.All.caseWhen.mp same
      have middle := partsOfBranches_mapValues pairing branches branchesSame
      have last := partsOfElse_mapValues pairing otherwise? elseSame
      simp only [Node.mapValues, partsAt, Node.checkCase_mapValues]
        at placed ⊢
      exact placed (rel_append (pairing.ofCheck _) (pairing.cons rfl
        (rel_append middle (pairing.ending rfl last))))
  | group inner =>
      have part := (Node.All.group.mp same).2
      simp only [Node.mapValues, partsAt, Node.isBinaryOf_mapValues]
        at placed ⊢
      split
      · exact partsAt_mapValues pairing position inner part
      · exact placed (pairing.cons rfl (pairing.ending rfl
          (partsAt_mapValues pairing .free inner part)))
  | list items =>
      have each := partsOfAll_mapValues pairing items
        (Node.All.list.mp same).2
      simp only [Node.mapValues, partsAt] at placed ⊢
      exact placed (pairing.join ", " each)
  | aliased relation name =>
      have body := partsAt_mapValues pairing .free relation
        (Node.All.aliased.mp same).2
      simp only [Node.mapValues, partsAt] at placed ⊢
      exact placed (rel_append body
        (pairing.cons rfl (pairing.cons rfl .nil)))
  | raw sql =>
      simp only [Node.mapValues, partsAt] at placed ⊢
      exact placed (pairing.cons rfl .nil)

theorem partsOfAll_mapValues (pairing : config.Pairing other change pairs)
    (nodes : List Node) (same : ∀ node ∈ nodes, config.SameForms other node) :
    Forall₂ (Forall₂ pairs)
      (config.partsOfAll (Node.mapValuesOfAll change nodes))
      (other.partsOfAll nodes) := by
  cases nodes with
  | nil => exact .nil
  | cons node nodes =>
      obtain ⟨own, others⟩ := List.forall_mem_cons.mp same
      exact .cons (partsAt_mapValues pairing .free node own)
        (partsOfAll_mapValues pairing nodes others)

theorem partsOfBranches_mapValues
    (pairing : config.Pairing other change pairs)
    (branches : List (Node × Node))
    (same : ∀ branch ∈ branches,
      config.SameForms other branch.1 ∧ config.SameForms other branch.2) :
    Forall₂ pairs
      (config.partsOfBranches (Node.mapValuesOfBranches change branches))
      (other.partsOfBranches branches) := by
  cases branches with
  | nil => exact .nil
  | cons branch branches =>
      obtain ⟨condition, result⟩ := branch
      obtain ⟨own, others⟩ := List.forall_mem_cons.mp same
      have first := partsAt_mapValues pairing .free condition own.1
      have second := partsAt_mapValues pairing .free result own.2
      have rest := partsOfBranches_mapValues pairing branches others
      exact pairing.cons rfl (rel_append first
        (pairing.cons rfl (rel_append second rest)))

theorem partsOfElse_mapValues (pairing : config.Pairing other change pairs)
    (otherwise? : Option Node)
    (same : ∀ result ∈ otherwise?, config.SameForms other result) :
    Forall₂ pairs (config.partsOfElse (Node.mapValuesOfElse change otherwise?))
      (other.partsOfElse otherwise?) := by
  cases otherwise? with
  | none => exact .nil
  | some result =>
      exact pairing.cons rfl
        (partsAt_mapValues pairing .free result (same result rfl))

end

end Pairing

/-! ## Renderings -/

/-- One configuration writes changed values as another one writes the values
themselves, and all else alike. -/
structure SpellsAs (config other : Config) (change : Value → Value) :
    Prop where
  dialect : config.dialect = other.dialect
  isNull : ∀ value, (change value).isNull = value.isNull
  literal : ∀ value,
    (change value).literal config.booleanStyle =
      value.literal other.booleanStyle
  templates : config.booleanStyle = other.booleanStyle ∨
    other.operators.HasStandardForms

theorem SpellsAs.pairing {config other : Config} {change : Value → Value}
    (spells : config.SpellsAs other change) :
    config.Pairing other change fun part own =>
      part.render config = own.render other where
  isNull := spells.isNull
  value value := congrArg Rendering.ofResult (spells.literal value)
  fixed part fixed := by
    cases part with
    | reference | label =>
        simp only [Part.render, renderColumn, spells.dialect]
    | value | constant => cases fixed
    | _ => rfl
  constant same value := by simp only [Part.render, same]
  templates := spells.templates

theorem SpellsAs.renderAt_mapValues {config other : Config}
    {change : Value → Value} (spells : config.SpellsAs other change)
    (position : Position) (node : Node) (same : config.SameForms other node) :
    config.renderAt position (node.mapValues change) =
      other.renderAt position node := by
  rw [renderAt_eq_ofParts, renderAt_eq_ofParts]
  exact Rendering.ofParts_congr (spells.pairing.partsAt_mapValues position node same)

end Config

end SqlExpr
