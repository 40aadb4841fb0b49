import SqlExpr.Proofs.Output.NodePhrase

/-!
# The data in a rendering

The columns, values and casts of a tree stand among the parts of its rendering
in the order in which they stand in the tree, none of them twice.  If no part
fails, none of them is missing.  Only a bare null is left out, since a
comparison with it is written as a test of its own.
-/

namespace SqlExpr

/-- A column, a value other than null, or a cast. -/
def Part.isDatum : Part → Bool
  | value held => !held.isNull
  | reference .. | cast _ => true
  | _ => false

namespace Node

/-- The parts that a column or a literal is written with, without a null. -/
def ownData : Node → List Part
  | .column table? name => [.reference table? name]
  | .literal value sqlType? =>
    (.value value :: (sqlType?.map Part.cast).toList).filter Part.isDatum
  | _ => []

/-- The columns, values and casts of a tree. -/
def data (node : Node) : List Part := node.subnodes.flatMap ownData

section

variable {left right inner : Node} {nodes : List Node}

@[simp] theorem data_binary {kind : String} :
    (binary kind left right).data = left.data ++ right.data := by
  simp [data, subnodes, ownData]

@[simp] theorem data_unary {kind : String} :
    (unary kind inner).data = inner.data := by
  simp [data, subnodes, ownData]

@[simp] theorem data_group : (group inner).data = inner.data := by
  simp [data, subnodes, ownData]

@[simp] theorem data_aliased {name : String} :
    (aliased inner name).data = inner.data := by
  simp [data, subnodes, ownData]

private theorem flatMap_subnodesOfAll :
    (subnodesOfAll nodes).flatMap ownData = nodes.flatMap data := by
  induction nodes with
  | nil => rfl
  | cons node nodes induction =>
      simp [subnodesOfAll, induction, data]

@[simp] theorem data_list : (list nodes).data = nodes.flatMap data := by
  simp [data, subnodes, ownData, flatMap_subnodesOfAll]

@[simp] theorem data_call {name : String} :
    (call name nodes).data = nodes.flatMap data := by
  simp [data, subnodes, ownData, flatMap_subnodesOfAll]

@[simp] theorem data_caseWhen {branches : List (Node × Node)}
    {otherwise? : Option Node} :
    (caseWhen branches otherwise?).data =
      branches.flatMap (fun branch => branch.1.data ++ branch.2.data) ++
        otherwise?.toList.flatMap data := by
  have branchwise : (subnodesOfBranches branches).flatMap ownData =
      branches.flatMap fun branch => branch.1.data ++ branch.2.data := by
    induction branches with
    | nil => rfl
    | cons branch branches induction =>
        simp [subnodesOfBranches, induction, data]
  cases otherwise? <;>
    simp [data, subnodes, subnodesOfElse, ownData, branchwise]

theorem data_of_isNull {node : Node} (null : node.isNull) :
    node.data = [] := by
  rw [eq_null_of_isNull null]
  rfl

theorem mem_data_cast {node : Node} {sqlType : String} :
    .cast sqlType ∈ node.data ↔
      ∃ value, .literal value (some sqlType) ∈ node.subnodes := by
  simp only [data, List.mem_flatMap]
  constructor
  · rintro ⟨inner, member, own⟩
    cases inner with
    | literal value sqlType? =>
        cases sqlType? with
        | none =>
            cases value <;> simp [ownData, Part.isDatum, Value.isNull] at own
        | some other =>
            cases value <;>
              simp [ownData, Part.isDatum, Value.isNull] at own <;>
              exact ⟨_, own ▸ member⟩
    | column table? name => simp [ownData] at own
    | _ => cases own
  · rintro ⟨value, member⟩
    exact ⟨_, member, by simp [ownData, Part.isDatum]⟩

end

end Node

/-- The data among the parts are some of the given ones, and all of them unless
one of the parts fails. -/
def Carries (parts : List Part) (data : List Part) : Prop :=
  (parts.filter Part.isDatum).Sublist data ∧
    ((∀ error, .fail error ∉ parts) → parts.filter Part.isDatum = data)

namespace Carries

variable {parts first second : List Part} {data more : List Part}

theorem bare (part : Part) (none : part.isDatum = false) :
    Carries [part] [] := by
  simp [Carries, none]

theorem nil : Carries [] [] := by simp [Carries]

theorem failing (error : ExprError) : Carries [.fail error] data := by
  refine ⟨by simp [Part.isDatum], fun noFail => ?_⟩
  exact absurd List.mem_cons_self (noFail error)

theorem append (left : Carries first data) (right : Carries second more) :
    Carries (first ++ second) (data ++ more) := by
  unfold Carries at *
  rw [List.filter_append]
  refine ⟨left.1.append right.1, fun noFail => ?_⟩
  simp only [List.mem_append, not_or] at noFail
  rw [left.2 fun error => (noFail error).1,
    right.2 fun error => (noFail error).2]

theorem cons {part : Part} (none : part.isDatum = false)
    (carries : Carries parts data) : Carries (part :: parts) data :=
  (bare part none).append carries

theorem ending {part : Part} (none : part.isDatum = false)
    (carries : Carries parts data) :
    Carries (parts ++ [part]) data := by
  simpa using carries.append (bare part none)

theorem placed {position : Position} {node : Node}
    (carries : Carries parts data) :
    Carries (position.placed node parts) data := by
  have joint : Carries position.joint [] := by
    obtain _ | _ | ⟨connective, _ | _⟩ | _ := position
    · exact nil
    · exact nil
    · exact bare _ rfl
    · exact nil
    · exact nil
  unfold Position.placed
  refine joint.append ?_
  split
  · exact cons rfl (ending rfl carries)
  · exact carries

theorem ofText {text : String} : Carries (Part.ofText text) [] := by
  unfold Part.ofText
  split
  · exact nil
  · exact bare _ rfl

theorem ofCheck {check : ExprResult Unit}
    (carries : Carries parts data) :
    Carries (Part.ofCheck check ++ parts) data := by
  cases check with
  | ok => exact carries
  | error error => exact cons rfl carries

theorem array {style : BooleanStyle} {shape : Template}
    {items : List (List Part)}
    (known : (OperatorForm.template shape).IsLexical)
    (carries : Carries (Part.join "," items) data) :
    Carries (Piece.allParts style (SinglePlace.parts items) shape.single)
      data := by
  have around (close : String) :
      Carries (.verbatim "ARRAY[" ::
        (Part.join "," items ++ [.verbatim close])) data :=
    cons rfl (ending rfl carries)
  rcases known with rfl | rfl
  · exact around "]"
  · exact around "]::text[]"

end Carries

namespace Config

variable (config : Config)

section Operators

variable {config} {position : Position} {kind : String}
  {left right operand : Node}

theorem carriesAt_binary (own : config.IsLexical (.binary kind left right))
    (leftCarries : ∀ position,
      Carries (config.partsAt position left) left.data)
    (rightCarries : ∀ position,
      Carries (config.partsAt position right) right.data) :
    Carries (config.partsAt position (.binary kind left right))
      (Node.binary kind left right).data := by
  simp only [partsAt, Node.data_binary]
  cases core : BinaryOperator.ofKind? kind with
  | none =>
      refine .placed ?_
      cases found : config.operators.find kind with
      | error error => exact .failing error
      | ok definition =>
          have known := own core definition found
          obtain ⟨form, left?, right?⟩ := definition
          cases form with
          | infixed symbol =>
              exact (leftCarries _).append ((rightCarries _).cons rfl)
          | template shape =>
              rcases known with rfl | rfl <;> exact .failing _
          | prefixed symbol => exact .failing _
          | postfixed symbol => exact .failing _
  | some operator =>
      simp only []
      split
      · exact (leftCarries _).append ((rightCarries _).cons rfl)
      · split
        · split
          · exact (leftCarries _).append (rightCarries _)
          · exact .placed ((leftCarries _).append (rightCarries _))
        · refine .placed ((leftCarries _).append ?_)
          split
          · next test =>
              rw [Bool.and_eq_true] at test
              rw [Node.data_of_isNull test.2]
              exact .bare _ rfl
          · split
            · exact (rightCarries _).cons rfl
            · exact (rightCarries _).cons rfl

/-- The items of a list are written without the list itself. -/
theorem carriesAt_unary (own : config.IsLexical (.unary kind operand))
    (operandCarries : Carries (config.partsAt .free operand) operand.data)
    (itemsCarry : ∀ items, operand = .list items →
      Carries (Part.join "," (config.partsOfAll items))
        (items.flatMap Node.data)) :
    Carries (config.partsAt position (.unary kind operand))
      (Node.unary kind operand).data := by
  rw [partsAt.eq_def, Node.data_unary]
  simp only []
  refine .placed ?_
  cases core : UnaryOperator.ofKind? kind with
  | some operator =>
      simpa using Carries.ofText.append
        (operandCarries.append Carries.ofText)
  | none =>
      cases found : config.operators.find kind with
      | error error => exact .failing error
      | ok definition =>
          have known := own core definition found
          obtain ⟨form, left?, right?⟩ := definition
          cases form with
          | prefixed symbol => exact operandCarries.cons rfl
          | postfixed symbol => exact operandCarries.ending rfl
          | infixed symbol => exact .failing _
          | template shape =>
              refine .array known ?_
              cases operand with
              | list items => simpa using itemsCarry items rfl
              | _ => exact operandCarries

end Operators

mutual

theorem carriesAt (position : Position) (node : Node)
    (lexical : node.All config.IsLexical) :
    Carries (config.partsAt position node) node.data := by
  cases node with
  | column table? name =>
      have own : Carries [.reference table? name]
          (Node.column table? name).data := by
        simp [Node.data, Node.subnodes, Node.ownData, Carries, Part.isDatum]
      simp only [partsAt]
      exact .placed own
  | literal value sqlType? =>
      have own : Carries (.value value :: (sqlType?.map Part.cast).toList)
          (Node.literal value sqlType?).data := by
        simp [Node.data, Node.subnodes, Node.ownData, Carries]
      simp only [partsAt]
      exact .placed own
  | binary kind left right =>
      obtain ⟨own, leftLexical, rightLexical⟩ := Node.All.binary.mp lexical
      apply carriesAt_binary own
      · intro position
        exact carriesAt position left leftLexical
      · intro position
        exact carriesAt position right rightLexical
  | unary kind operand =>
      obtain ⟨own, operandLexical⟩ := Node.All.unary.mp lexical
      apply carriesAt_unary own
      · exact carriesAt .free operand operandLexical
      · cases operand with
        | list items =>
            rintro _ ⟨⟩
            exact carriesOfAll "," items (Node.All.list.mp operandLexical).2
        | _ => rintro _ ⟨⟩
  | call name arguments =>
      simp only [Node.All.call] at lexical
      simp only [partsAt, Node.data_call]
      exact .placed (.cons rfl
        (.ending rfl (carriesOfAll ", " arguments lexical.2)))
  | caseWhen branches otherwise? =>
      simp only [Node.All.caseWhen] at lexical
      simp only [partsAt, Node.data_caseWhen]
      refine .placed (.ofCheck (.cons rfl ?_))
      exact (carriesOfBranches branches lexical.2.1).append
        (.ending rfl (carriesOfElse otherwise? lexical.2.2))
  | group inner =>
      simp only [Node.All.group] at lexical
      simp only [partsAt, Node.data_group]
      split
      · exact carriesAt position inner lexical.2
      · exact .placed (.cons rfl (.ending rfl
          (carriesAt .free inner lexical.2)))
  | list items =>
      simp only [Node.All.list] at lexical
      simp only [partsAt, Node.data_list]
      exact .placed (carriesOfAll ", " items lexical.2)
  | aliased relation name =>
      simp only [Node.All.aliased] at lexical
      simp only [partsAt, Node.data_aliased]
      have label : Carries [.verbatim " ", .label name] [] :=
        .cons rfl (.bare _ rfl)
      exact .placed (by
        simpa using (carriesAt .free relation lexical.2).append label)
  | raw sql =>
      simp only [Node.All.raw] at lexical
      exact lexical.elim

theorem carriesOfAll (separator : String) (nodes : List Node)
    (lexical : ∀ node ∈ nodes, node.All config.IsLexical) :
    Carries (Part.join separator (config.partsOfAll nodes))
      (nodes.flatMap Node.data) := by
  cases nodes with
  | nil => exact .nil
  | cons node nodes =>
      rw [List.forall_mem_cons] at lexical
      have first := carriesAt .free node lexical.1
      have rest := carriesOfAll separator nodes lexical.2
      rw [List.flatMap_cons]
      cases nodes with
      | nil => simpa [partsOfAll, Part.join] using first
      | cons next nodes => exact first.append (rest.cons rfl)

theorem carriesOfBranches (branches : List (Node × Node))
    (lexical : ∀ branch ∈ branches,
      branch.1.All config.IsLexical ∧ branch.2.All config.IsLexical) :
    Carries (config.partsOfBranches branches)
      (branches.flatMap fun branch => branch.1.data ++ branch.2.data) := by
  cases branches with
  | nil => exact .nil
  | cons branch branches =>
      obtain ⟨condition, result⟩ := branch
      rw [List.forall_mem_cons] at lexical
      obtain ⟨⟨conditionLexical, resultLexical⟩, restLexical⟩ := lexical
      have conditionCarries := carriesAt .free condition conditionLexical
      have resultCarries := carriesAt .free result resultLexical
      have rest := carriesOfBranches branches restLexical
      simp only [partsOfBranches, List.flatMap_cons, List.append_assoc]
      exact .cons rfl (conditionCarries.append
        (.cons rfl (resultCarries.append rest)))

theorem carriesOfElse (otherwise? : Option Node)
    (lexical : ∀ result ∈ otherwise?, result.All config.IsLexical) :
    Carries (config.partsOfElse otherwise?)
      (otherwise?.toList.flatMap Node.data) := by
  cases otherwise? with
  | none => exact .nil
  | some result =>
      have resultCarries := carriesAt .free result (lexical result rfl)
      simpa [partsOfElse] using resultCarries.cons rfl

end

end Config

namespace Rendering

variable {config : Config} {node : Node}

/-- The data of a tree are those of its rendering, if that succeeds. -/
theorem filter_isDatum_parts (lexical : node.All config.IsLexical)
    {text : String}
    (success : ofParts config (config.parts node) = write text) :
    (config.parts node).filter Part.isDatum = node.data := by
  refine (config.carriesAt .free node lexical).2 fun error member => ?_
  obtain ⟨own, written⟩ := part_eq_write success _ member
  cases written

theorem data_eq_write (lexical : node.All config.IsLexical) {text : String}
    (success : ofParts config (config.parts node) = write text) :
    ∀ part ∈ node.data, ∃ own, part.render config = .write own := by
  intro part member
  rw [← filter_isDatum_parts lexical success] at member
  exact part_eq_write success part (List.mem_filter.mp member).1

theorem mem_data_of_mem_parts (lexical : node.All config.IsLexical)
    {part : Part} (datum : part.isDatum) (member : part ∈ config.parts node) :
    part ∈ node.data :=
  (config.carriesAt .free node lexical).1.subset
    (List.mem_filter.mpr ⟨member, datum⟩)

end Rendering

end SqlExpr
