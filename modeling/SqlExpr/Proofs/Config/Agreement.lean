import SqlExpr.Proofs.Config.Steps
import SqlExpr.Proofs.Output.Alike

/-!
# Configurations that agree on a tree

A rendering asks its registry for the operators that occur in the tree and for
no others, and of their definitions it reads the form alone.  Two
configurations that have these forms in common render the tree alike, also
when it fails, and so a configuration can be extended by operators of other
kinds without a change to the trees that were there before.
-/

namespace SqlExpr

/-- The kinds of the operators that occur in a tree. -/
def Node.operatorKinds (node : Node) : List String :=
  node.subnodes.filterMap operatorKind?

namespace Registry

variable {registry other : Registry} {kind : String}

/-- Two registries have the same form for every operator in a tree, or none. -/
def AgreesOn (registry other : Registry) (node : Node) : Prop :=
  ∀ kind ∈ node.operatorKinds, registry.form? kind = other.form? kind

theorem agreesOn_iff_all {node : Node} :
    registry.AgreesOn other node ↔
      node.All fun inner => ∀ kind ∈ inner.operatorKind?,
        registry.form? kind = other.form? kind := by
  unfold AgreesOn Node.operatorKinds Node.All
  simp only [List.mem_filterMap, forall_exists_index, and_imp]
  constructor
  · intro agree inner member kind own
    exact agree kind inner member own
  · intro agree kind inner member own
    exact agree inner member kind own

namespace AgreesOn

variable {node : Node}

theorem define (agree : registry.AgreesOn other node) (kind : String)
    (definition : OperatorDefinition) :
    (registry.define kind definition).AgreesOn
      (other.define kind definition) node := by
  intro asked occurs
  rw [form?_define, form?_define, agree asked occurs]

theorem defineElsewhere (agree : registry.AgreesOn other node)
    (definition : OperatorDefinition) (absent : kind ∉ node.operatorKinds) :
    registry.AgreesOn (other.define kind definition) node := by
  intro asked occurs
  rw [form?_define, if_neg, agree asked occurs]
  rintro rfl
  exact absent occurs

theorem install (agree : registry.AgreesOn other node)
    (extension : Extension) :
    (extension.install registry).AgreesOn (extension.install other) node := by
  unfold Extension.install
  generalize extension.definitions = definitions
  induction definitions generalizing registry other with
  | nil => exact agree
  | cons entry definitions induction =>
      apply induction
      exact agree.define entry.1 entry.2

theorem installElsewhere (agree : registry.AgreesOn other node)
    (extension : Extension)
    (absent : ∀ entry ∈ extension.definitions,
      entry.1 ∉ node.operatorKinds) :
    registry.AgreesOn (extension.install other) node := by
  apply Extension.install_induction (registry.AgreesOn · node) agree
  intro other entry member agree
  exact agree.defineElsewhere entry.2 (absent entry member)

end AgreesOn

end Registry

namespace Config

/-- Two configurations write names and truth values alike, and all operators of
a tree. -/
structure AgreesOn (config other : Config) (node : Node) : Prop where
  dialect : config.dialect = other.dialect
  booleanStyle : config.booleanStyle = other.booleanStyle
  operators : config.operators.AgreesOn other.operators node

/-- A rendering depends on the operators of the tree alone. -/
theorem AgreesOn.renderAt_eq {config other : Config} {node : Node}
    (agree : config.AgreesOn other node) (position : Position) :
    config.renderAt position node = other.renderAt position node := by
  have spells : config.SpellsAs other id :=
    { dialect := agree.dialect
      isNull := fun _ => rfl
      literal := fun _ => by rw [agree.booleanStyle, id]
      templates := .inl agree.booleanStyle }
  have written := spells.renderAt_mapValues position node
    (Registry.agreesOn_iff_all.mp agree.operators)
  rwa [Node.mapValues_id] at written

end Config

/-! ## Steps that add other operators -/

/-- The second row of steps is the first one, with registrations and extensions
added anywhere whose kinds do not occur in the tree. -/
inductive ConfigStep.Extends (node : Node) :
    List ConfigStep → List ConfigStep → Prop where
  | nil : Extends node [] []
  | keep (step : ConfigStep) {steps more : List ConfigStep}
      (rest : Extends node steps more) :
      Extends node (step :: steps) (step :: more)
  | addOperator {kind : String} (definition : OperatorDefinition)
      (absent : kind ∉ node.operatorKinds) {steps more : List ConfigStep}
      (rest : Extends node steps more) :
      Extends node steps (.operator kind definition :: more)
  | addExtension {extension : Extension}
      (absent : ∀ entry ∈ extension.definitions,
        entry.1 ∉ node.operatorKinds) {steps more : List ConfigStep}
      (rest : Extends node steps more) :
      Extends node steps (.extension extension :: more)

namespace ConfigBuilder

/-- Two builders without an error, which would make configurations that agree
on a tree. -/
structure AgreesOn (builder other : ConfigBuilder) (node : Node) : Prop where
  clean : builder.error? = none
  dialect : builder.dialect = other.dialect
  booleanStyle : builder.booleanStyle = other.booleanStyle
  operators : builder.operators.AgreesOn other.operators node

namespace AgreesOn

variable {builder other : ConfigBuilder} {node : Node}

theorem take (agree : builder.AgreesOn other node) (step : ConfigStep)
    (success : (other.take step).error? = none) :
    (builder.take step).AgreesOn (other.take step) node := by
  obtain ⟨clean, dialect, booleanStyle, operators⟩ := agree
  cases step with
  | dialect own => exact ⟨clean, rfl, booleanStyle, operators⟩
  | booleanStyle own => exact ⟨clean, dialect, rfl, operators⟩
  | extension extension =>
      exact ⟨clean, dialect, booleanStyle, operators.install extension⟩
  | operator kind definition =>
      obtain ⟨_, allowed, registered⟩ := register_of_error?_eq_none success
      simp only [ConfigBuilder.take, registered,
        register_of_allowed clean allowed]
      exact ⟨clean, dialect, booleanStyle, operators.define kind definition⟩

theorem addOperator (agree : builder.AgreesOn other node) {kind : String}
    {definition : OperatorDefinition} (absent : kind ∉ node.operatorKinds)
    (success : (other.register kind definition).error? = none) :
    builder.AgreesOn (other.register kind definition) node := by
  obtain ⟨clean, dialect, booleanStyle, operators⟩ := agree
  rw [(register_of_error?_eq_none success).2.2]
  exact ⟨clean, dialect, booleanStyle,
    operators.defineElsewhere definition absent⟩

theorem addExtension (agree : builder.AgreesOn other node)
    {extension : Extension}
    (absent : ∀ entry ∈ extension.definitions,
      entry.1 ∉ node.operatorKinds) :
    builder.AgreesOn (other.addExtension extension) node := by
  obtain ⟨clean, dialect, booleanStyle, operators⟩ := agree
  exact ⟨clean, dialect, booleanStyle,
    operators.installElsewhere extension absent⟩

/-- Builders that agree go on to agree, if one of them takes further steps that
do not concern the tree and meets no error on its way. -/
theorem takeAll (agree : builder.AgreesOn other node)
    {steps more : List ConfigStep}
    (extend : ConfigStep.Extends node steps more)
    (success : (other.takeAll more).error? = none) :
    (builder.takeAll steps).AgreesOn (other.takeAll more) node := by
  induction extend generalizing builder other with
  | nil => exact agree
  | keep step rest induction =>
      apply induction
      · exact agree.take step (error?_of_takeAll success)
      · exact success
  | addOperator definition absent rest induction =>
      apply induction
      · exact agree.addOperator absent (error?_of_takeAll success)
      · exact success
  | addExtension absent rest induction =>
      apply induction
      · exact agree.addExtension absent
      · exact success

end AgreesOn

end ConfigBuilder

namespace Config

/-- Where two configurations agree on a tree, they render it alike.  So does a
configuration that is made with further operators, none of which occurs in the
tree. -/
theorem render_eq_of_same_operators (node : Node) :
    (∀ config other : Config, config.AgreesOn other node →
      config.render node = other.render node) ∧
    ∀ (steps more : List ConfigStep) (other : Config),
      ConfigStep.Extends node steps more → ofSteps more = .ok other →
        ∃ config, ofSteps steps = .ok config ∧
          config.render node = other.render node := by
  have alike {config other : Config} (agree : config.AgreesOn other node) :
      config.render node = other.render node :=
    congrArg Rendering.result (agree.renderAt_eq .free)
  constructor
  · intro config other agree
    exact alike agree
  · intro steps more other extend success
    obtain ⟨clean, rfl⟩ := ConfigBuilder.build_eq_ok_iff.mp success
    have start : ConfigBuilder.AgreesOn {} {} node :=
      ⟨rfl, rfl, rfl, fun _ _ => rfl⟩
    have agree := start.takeAll extend clean
    refine ⟨_, ConfigBuilder.build_eq_ok_iff.mpr ⟨agree.clean, rfl⟩, ?_⟩
    exact alike ⟨agree.dialect, agree.booleanStyle, agree.operators⟩

/-- A prefix operator can be registered before the ready-made operators, or be
defined after them: an accessor is written as it was. -/
theorem render_eq_of_same_operators_accessor :
    let accessor : Node := .binary "->" (.column (some "t") "c") (.text "k")
    let absolute : OperatorDefinition := ⟨.prefixed "@ ", none, none⟩
    let further : Config :=
      { postgres with operators := postgres.operators.define "abs" absolute }
    postgres.render accessor = further.render accessor ∧
      ∃ config other, ofSteps [.extension .json] = .ok config ∧
        ofSteps [.operator "abs" absolute, .extension .json] = .ok other ∧
        config.render accessor = other.render accessor ∧
        other.render accessor = .ok "\"t\".\"c\" -> 'k'" := by
  intro accessor absolute further
  have absent : "abs" ∉ accessor.operatorKinds := by decide
  have agree : postgres.AgreesOn further accessor := by
    refine ⟨rfl, rfl, ?_⟩
    apply Registry.AgreesOn.defineElsewhere
    · intro kind _
      rfl
    · exact absent
  have extend : ConfigStep.Extends accessor [.extension .json]
      [.operator "abs" absolute, .extension .json] :=
    .addOperator absolute absent (.keep _ .nil)
  let other : Config := ⟨.postgres, .keyword,
    Extension.json.install (Registry.empty.define "abs" absolute)⟩
  have made : ofSteps [.operator "abs" absolute, .extension .json] =
      .ok other := rfl
  have text : other.render accessor = .ok "\"t\".\"c\" -> 'k'" := rfl
  obtain ⟨config, before, same⟩ :=
    (render_eq_of_same_operators accessor).2 _ _ other extend made
  exact ⟨(render_eq_of_same_operators accessor).1 _ _ agree, config, other,
    before, made, same, text⟩

end Config

end SqlExpr
