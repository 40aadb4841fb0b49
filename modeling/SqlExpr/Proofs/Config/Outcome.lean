import SqlExpr.Proofs.Config.Steps
import SqlExpr.Proofs.Keyed
import SqlExpr.Proofs.Operator.Forms

/-!
# What a row of steps makes

A row of steps fails exactly if it registers a kind that is blank or belongs
to a core operator, and with the reason why the first of these kinds is
refused.  If it succeeds, every kind has the definition that it was given
last, by a registration or by an extension, and truth values are spelled as
was said last.
-/

namespace SqlExpr

open SqlExpr.Text

namespace Registry

/-- A kind that can be registered: it can be seen, and no core operator has
it. -/
structure IsRegistrable (kind : String) : Prop where
  visible : isBlankText kind = false
  notBinary : BinaryOperator.ofKind? kind = none
  notUnary : UnaryOperator.ofKind? kind = none

/-- The reasons for which a kind is refused. -/
inductive Refuses : String → ExprError → Prop where
  | blank {kind : String} (blank : isBlankText kind) :
      Refuses kind (.config "operator kind cannot be empty")
  | core {kind : String} (visible : isBlankText kind = false)
      (core : (BinaryOperator.ofKind? kind).isSome ∨
        (UnaryOperator.ofKind? kind).isSome) :
      Refuses kind (.config
        ("'" ++ kind ++ "' is a core operator and cannot be registered"))

variable {registry : Registry} {kind : String} {error : ExprError}

theorem isRegistrable_iff :
    IsRegistrable kind ↔
      isBlankText kind = false ∧ isCoreKind kind = false := by
  unfold isCoreKind
  rw [Bool.or_eq_false_iff, Option.isSome_eq_false_iff,
    Option.isSome_eq_false_iff, Option.isNone_iff_eq_none,
    Option.isNone_iff_eq_none]
  constructor
  · rintro ⟨visible, notBinary, notUnary⟩
    exact ⟨visible, notBinary, notUnary⟩
  · rintro ⟨visible, notBinary, notUnary⟩
    exact ⟨visible, notBinary, notUnary⟩

theorem checkKind_eq_ok_iff : checkKind kind = .ok () ↔ IsRegistrable kind := by
  rw [isRegistrable_iff]
  unfold checkKind
  cases isBlankText kind with
  | true => simp
  | false => cases isCoreKind kind <;> simp

theorem checkKind_eq_error_iff :
    checkKind kind = .error error ↔ Refuses kind error := by
  unfold checkKind
  cases blank : isBlankText kind with
  | true =>
      constructor
      · intro refused
        cases refused
        exact .blank blank
      · intro refused
        cases refused with
        | blank => rfl
        | core visible => simp [blank] at visible
  | false =>
      cases core : isCoreKind kind with
      | true =>
          constructor
          · intro refused
            cases refused
            unfold isCoreKind at core
            exact .core blank (by simpa using core)
          · intro refused
            cases refused with
            | blank own => simp [blank] at own
            | core => rfl
      | false =>
          constructor
          · intro refused
            cases refused
          · intro refused
            cases refused with
            | blank own => simp [blank] at own
            | core visible own =>
                have known : isCoreKind kind := by simpa [isCoreKind] using own
                rw [core] at known
                cases known

/-- An extension gives its kinds their definitions and leaves the others as they
are. -/
theorem get?_install (extension : Extension) :
    (extension.install registry).get? kind =
      (Keyed.get? extension.definitions kind).or (registry.get? kind) := by
  have distinct : (Keyed.keys extension.definitions).Nodup := by
    cases extension <;> decide
  unfold Extension.install
  generalize extension.definitions = definitions at distinct
  induction definitions generalizing registry with
  | nil => rfl
  | cons entry definitions induction =>
      obtain ⟨own, definition⟩ := entry
      rw [Keyed.keys_cons, List.nodup_cons, Keyed.mem_keys_iff,
        Option.not_isSome_iff_eq_none] at distinct
      obtain ⟨apart, distinct⟩ := distinct
      rw [List.foldl_cons, induction distinct, get?_define, Keyed.get?_cons]
      by_cases same : kind = own
      · subst own
        simp [apart]
      · simp [same]

end Registry

/-! ## What a step says -/

namespace ConfigStep

/-- The kinds that a step defines. -/
def kinds : ConfigStep → List String
  | .operator kind _ => [kind]
  | .extension .array => ["array", "text_array"]
  | .extension .json => ["array", "text_array", "->", "->>", "#>", "#>>"]
  | _ => []

/-- The definition that a step gives to a kind. -/
def definition? (asked : String) : ConfigStep → Option OperatorDefinition
  | .operator kind definition =>
    if asked = kind then some definition else none
  | .extension added => Keyed.get? added.definitions asked
  | _ => none

/-- A step that registers no operator, or one that can be registered. -/
def IsAllowed : ConfigStep → Prop
  | .operator kind _ => Registry.IsRegistrable kind
  | _ => True

/-- The spelling of truth values that a step asks for. -/
def style? : ConfigStep → Option BooleanStyle
  | .booleanStyle style => some style
  | _ => none

/-- The definition of the last step that gives one to a kind. -/
def lastDefinition? (steps : List ConfigStep) (kind : String) :
    Option OperatorDefinition :=
  steps.reverse.findSome? (definition? kind)

/-- The spelling that the last step to speak of it asks for; without such a step
it is that with keywords. -/
def lastStyle (steps : List ConfigStep) : BooleanStyle :=
  (steps.reverse.findSome? style?).getD .keyword

variable {step : ConfigStep} {steps : List ConfigStep} {kind : String}

theorem mem_kinds_iff : kind ∈ step.kinds ↔ (step.definition? kind).isSome := by
  cases step with
  | dialect | booleanStyle => simp [kinds, definition?]
  | operator own definition =>
      by_cases same : kind = own <;> simp [kinds, definition?, same]
  | extension added =>
      have same : (extension added).kinds.Perm
          (Keyed.keys added.definitions) := by
        cases added <;> decide
      rw [same.mem_iff]
      exact Keyed.mem_keys_iff

theorem isSome_lastDefinition?_iff :
    (lastDefinition? steps kind).isSome ↔
      ∃ step ∈ steps, kind ∈ step.kinds := by
  unfold lastDefinition?
  simp only [List.findSome?_isSome_iff, List.mem_reverse, mem_kinds_iff]

/-- An extension defines kinds that could be registered as well. -/
theorem IsAllowed.isRegistrable (allowed : step.IsAllowed)
    (own : kind ∈ step.kinds) : Registry.IsRegistrable kind := by
  cases step with
  | dialect | booleanStyle => cases own
  | operator registered definition =>
      cases List.mem_singleton.mp own
      exact allowed
  | extension added =>
      have each : ∀ kind ∈ (extension .json).kinds,
          Registry.checkKind kind = .ok () := by
        intro kind member
        simp only [kinds, List.mem_cons, List.not_mem_nil, or_false] at member
        rcases member with rfl | rfl | rfl | rfl | rfl | rfl <;> rfl
      apply Registry.checkKind_eq_ok_iff.mp
      apply each
      cases added with
      | array => exact List.mem_append_left ["->", "->>", "#>", "#>>"] own
      | json => exact own

/-- What the steps define last is what the next one defines, if it does. -/
@[simp] theorem lastDefinition?_concat :
    lastDefinition? (steps ++ [step]) kind =
      (step.definition? kind).or (lastDefinition? steps kind) := by
  unfold lastDefinition?
  rw [List.reverse_concat, List.findSome?_cons]
  cases step.definition? kind <;> rfl

@[simp] theorem lastStyle_concat :
    lastStyle (steps ++ [step]) = step.style?.getD (lastStyle steps) := by
  unfold lastStyle
  rw [List.reverse_concat, List.findSome?_cons]
  cases step.style? <;> rfl

end ConfigStep

/-! ## A builder after some steps -/

namespace ConfigBuilder

variable {builder : ConfigBuilder} {step : ConfigStep}
  {done steps : List ConfigStep}

/-- The error that a step ends with, unless there is one before it. -/
def refusal? : ConfigStep → Option ExprError
  | .operator kind _ =>
    match Registry.checkKind kind with
    | .ok () => none
    | .error error => some error
  | _ => none

theorem error?_take :
    (builder.take step).error? = builder.error?.or (refusal? step) := by
  cases step with
  | dialect | booleanStyle | extension => exact Option.or_none.symm
  | operator kind definition =>
      simp only [take, register, refusal?, Registry.register]
      cases present : builder.error? with
      | some error => exact present
      | none => cases Registry.checkKind kind <;> rfl

theorem refusal?_eq_some_iff {error : ExprError} :
    refusal? step = some error ↔
      ∃ kind definition, step = .operator kind definition ∧
        Registry.Refuses kind error := by
  cases step with
  | dialect | booleanStyle | extension => simp [refusal?]
  | operator kind definition =>
      simp only [← Registry.checkKind_eq_error_iff, refusal?]
      cases checked : Registry.checkKind kind <;> simp [checked]

theorem refusal?_eq_none_iff : refusal? step = none ↔ step.IsAllowed := by
  cases step with
  | dialect | booleanStyle | extension => exact iff_of_true rfl trivial
  | operator kind definition =>
      simp only [ConfigStep.IsAllowed, ← Registry.checkKind_eq_ok_iff,
        refusal?]
      cases Registry.checkKind kind <;> simp

/-- The error of a row of steps is that of the first one that is refused. -/
theorem error?_takeAll :
    (builder.takeAll steps).error? =
      builder.error?.or (steps.findSome? refusal?) := by
  induction steps generalizing builder with
  | nil => simp
  | cons step steps induction =>
      rw [takeAll_cons, induction, error?_take, List.findSome?_cons,
        Option.or_assoc]
      cases refusal? step <;> rfl

/-- A step that is not refused defines its own kinds and no others. -/
theorem get?_take (success : (builder.take step).error? = none)
    (kind : String) :
    (builder.take step).operators.get? kind =
      (step.definition? kind).or (builder.operators.get? kind) := by
  cases step with
  | dialect | booleanStyle => rfl
  | extension added => exact Registry.get?_install added
  | operator own definition =>
      obtain ⟨-, -, defined⟩ := register_of_error?_eq_none success
      simp only [take, defined, Registry.get?_define, ConfigStep.definition?]
      split <;> rfl

theorem sorted_take (success : (builder.take step).error? = none)
    (sorted : builder.operators.entries.IsSorted) :
    (builder.take step).operators.entries.IsSorted := by
  cases step with
  | dialect | booleanStyle => exact sorted
  | extension added =>
      apply Extension.install_induction (·.entries.IsSorted) sorted
      intro registry entry _ sorted
      exact sorted.insert
  | operator own definition =>
      obtain ⟨-, -, defined⟩ := register_of_error?_eq_none success
      simp only [take, defined]
      exact sorted.insert

theorem booleanStyle_take (success : (builder.take step).error? = none) :
    (builder.take step).booleanStyle =
      step.style?.getD builder.booleanStyle := by
  cases step with
  | dialect | booleanStyle | extension => rfl
  | operator own definition =>
      obtain ⟨-, -, defined⟩ := register_of_error?_eq_none success
      simp only [take, defined]
      rfl

/-- What a builder holds after some steps without an error. -/
structure Holds (builder : ConfigBuilder) (steps : List ConfigStep) :
    Prop where
  get? : ∀ kind, builder.operators.get? kind =
    ConfigStep.lastDefinition? steps kind
  sorted : builder.operators.entries.IsSorted
  booleanStyle : builder.booleanStyle = ConfigStep.lastStyle steps

namespace Holds

theorem start : Holds {} [] where
  get? _ := rfl
  sorted := Keyed.isSorted_nil
  booleanStyle := rfl

theorem take (holds : builder.Holds done)
    (success : (builder.take step).error? = none) :
    (builder.take step).Holds (done ++ [step]) where
  get? kind := by
    rw [get?_take success, holds.get?, ConfigStep.lastDefinition?_concat]
  sorted := sorted_take success holds.sorted
  booleanStyle := by
    rw [booleanStyle_take success, holds.booleanStyle,
      ConfigStep.lastStyle_concat]

/-- The steps that are still to come only add to what the builder holds. -/
theorem takeAll (holds : builder.Holds done)
    (success : (builder.takeAll steps).error? = none) :
    (builder.takeAll steps).Holds (done ++ steps) := by
  induction steps generalizing builder done with
  | nil => simpa using holds
  | cons step steps induction =>
      have next := holds.take (error?_of_takeAll success)
      simpa using induction next success

end Holds

theorem build_eq_error_iff {error : ExprError} :
    builder.build = .error error ↔ builder.error? = some error := by
  unfold build
  cases builder.error? <;> simp

end ConfigBuilder

namespace Config

variable {config : Config} {steps : List ConfigStep}

/-- A configuration is as the steps say. -/
structure IsMadeBy (config : Config) (steps : List ConfigStep) : Prop where
  registrable : ∀ kind ∈ config.operators.kinds, Registry.IsRegistrable kind
  /-- A kind has the definition of the last step that gives it one. -/
  definition : ∀ kind, config.operators.get? kind =
    ConfigStep.lastDefinition? steps kind
  /-- There are the kinds that some step defines, and no others. -/
  kinds : ∀ kind, kind ∈ config.operators.kinds ↔
    ∃ step ∈ steps, kind ∈ step.kinds
  ascending : config.operators.kinds.Pairwise (· < ·)
  booleanStyle : config.booleanStyle = ConfigStep.lastStyle steps

theorem ofSteps_eq_ok_iff :
    ofSteps steps = .ok config ↔
      (∀ step ∈ steps, step.IsAllowed) ∧
        config = ⟨(ConfigBuilder.takeAll {} steps).dialect,
          (ConfigBuilder.takeAll {} steps).booleanStyle,
          (ConfigBuilder.takeAll {} steps).operators⟩ := by
  unfold ofSteps
  rw [ConfigBuilder.build_eq_ok_iff, ConfigBuilder.error?_takeAll,
    Option.none_or, List.findSome?_eq_none_iff]
  simp only [ConfigBuilder.refusal?_eq_none_iff]

theorem ofSteps_eq_error_iff {error : ExprError} :
    ofSteps steps = .error error ↔
      ∃ before kind definition after,
        steps = before ++ .operator kind definition :: after ∧
          (∀ step ∈ before, step.IsAllowed) ∧
          Registry.Refuses kind error := by
  unfold ofSteps
  rw [ConfigBuilder.build_eq_error_iff, ConfigBuilder.error?_takeAll,
    Option.none_or, List.findSome?_eq_some_iff]
  simp only [ConfigBuilder.refusal?_eq_none_iff,
    ConfigBuilder.refusal?_eq_some_iff]
  constructor
  · rintro ⟨before, _, after, row, ⟨kind, definition, rfl, refuses⟩, allowed⟩
    exact ⟨before, kind, definition, after, row, allowed, refuses⟩
  · rintro ⟨before, kind, definition, after, row, allowed, refuses⟩
    exact ⟨before, _, after, row, ⟨kind, definition, rfl, refuses⟩, allowed⟩

theorem isMadeBy_of_ofSteps (made : ofSteps steps = .ok config) :
    config.IsMadeBy steps := by
  obtain ⟨allowed, -⟩ := ofSteps_eq_ok_iff.mp made
  obtain ⟨clean, rfl⟩ := ConfigBuilder.build_eq_ok_iff.mp made
  have holds := ConfigBuilder.Holds.start.takeAll clean
  rw [List.nil_append] at holds
  have kinds (kind : String) :
      kind ∈ (ConfigBuilder.takeAll {} steps).operators.kinds ↔
        ∃ step ∈ steps, kind ∈ step.kinds := by
    rw [← ConfigStep.isSome_lastDefinition?_iff, ← holds.get?]
    exact Keyed.mem_keys_iff
  refine ⟨?_, holds.get?, kinds, holds.sorted, holds.booleanStyle⟩
  intro kind member
  obtain ⟨step, taken, own⟩ := (kinds kind).mp member
  exact (allowed step taken).isRegistrable own

/-- A row of steps makes a configuration unless it registers a kind that is
refused, and fails with the reason of the first of these kinds. -/
theorem ofSteps_outcome (steps : List ConfigStep) :
    ((∃ config, ofSteps steps = .ok config) ↔
      ∀ step ∈ steps, step.IsAllowed) ∧
    (∀ error, ofSteps steps = .error error ↔
      ∃ before kind definition after,
        steps = before ++ .operator kind definition :: after ∧
          (∀ step ∈ before, step.IsAllowed) ∧
          Registry.Refuses kind error) ∧
    ∀ config, ofSteps steps = .ok config → config.IsMadeBy steps := by
  refine ⟨?_, fun error => ofSteps_eq_error_iff,
    fun config made => isMadeBy_of_ofSteps made⟩
  constructor
  · rintro ⟨config, made⟩
    exact (ofSteps_eq_ok_iff.mp made).1
  · intro allowed
    exact ⟨_, ofSteps_eq_ok_iff.mpr ⟨allowed, rfl⟩⟩

/-- An accessor registered before the JSON family gets the definition of the
family, and an array defined after it keeps its own. -/
theorem ofSteps_outcome_overwritten :
    let arrow : OperatorDefinition := ⟨.infixed "to", none, none⟩
    let braces : OperatorDefinition := ⟨.prefixed "braces", none, none⟩
    let steps : List ConfigStep :=
      [.booleanStyle .keyword, .operator "->" arrow, .extension .json,
        .operator "array" braces, .booleanStyle .numeric]
    (∃ config, ofSteps steps = .ok config ∧ config.IsMadeBy steps ∧
      config.operators.get? "->" = some (Extension.infixDefinition "->") ∧
      config.operators.get? "array" = some braces ∧
      config.booleanStyle = .numeric) ∧
    ofSteps [.operator "" arrow, .extension .json, .operator "and" arrow] =
      .error (.config "operator kind cannot be empty") := by
  intro arrow braces steps
  have allowed : ∀ step ∈ steps, step.IsAllowed := by
    have registrable {kind : String}
        (checked : Registry.checkKind kind = .ok ()) :
        Registry.IsRegistrable kind :=
      Registry.checkKind_eq_ok_iff.mp checked
    simp only [steps, List.forall_mem_cons]
    exact ⟨trivial, registrable rfl, trivial, registrable rfl, trivial,
      by simp⟩
  obtain ⟨config, made⟩ := (ofSteps_outcome steps).1.mpr allowed
  have own := (ofSteps_outcome steps).2.2 config made
  constructor
  · exact ⟨config, made, own, own.definition "->", own.definition "array",
      own.booleanStyle⟩
  · exact ((ofSteps_outcome _).2.1 _).mpr
      ⟨[], "", arrow, _, rfl, by simp, .blank rfl⟩

end Config

end SqlExpr
