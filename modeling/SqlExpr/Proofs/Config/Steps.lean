import SqlExpr.Config.Basic

/-!
# Putting a configuration together

A configuration is the outcome of a row of steps, taken one after the other
from the default settings.  The first registration that is refused is
remembered, and no later step takes the refusal back.
-/

namespace SqlExpr

/-- A step in which a configuration is put together. -/
inductive ConfigStep where
  | dialect (dialect : Dialect)
  | booleanStyle (style : BooleanStyle)
  | extension (extension : Extension)
  | operator (kind : String) (definition : OperatorDefinition)

namespace ConfigBuilder

def take (builder : ConfigBuilder) : ConfigStep → ConfigBuilder
  | .dialect dialect => builder.setDialect dialect
  | .booleanStyle style => builder.setBooleanStyle style
  | .extension extension => builder.addExtension extension
  | .operator kind definition => builder.register kind definition

/-- The builder after a row of steps. -/
def takeAll (builder : ConfigBuilder) (steps : List ConfigStep) :
    ConfigBuilder :=
  steps.foldl take builder

variable {builder : ConfigBuilder} {steps : List ConfigStep}

@[simp] theorem takeAll_nil : builder.takeAll [] = builder := rfl

@[simp] theorem takeAll_cons {step : ConfigStep} :
    builder.takeAll (step :: steps) = (builder.take step).takeAll steps := rfl

/-- A registration that succeeds was allowed, and defines the operator. -/
theorem register_of_error?_eq_none {kind : String}
    {definition : OperatorDefinition}
    (success : (builder.register kind definition).error? = none) :
    builder.error? = none ∧ Registry.checkKind kind = .ok () ∧
      builder.register kind definition =
        { builder with
          operators := builder.operators.define kind definition } := by
  unfold register at success ⊢
  split at success
  next error refused =>
    rw [refused] at success
    cases success
  next clean =>
    rw [clean]
    unfold Registry.register at success ⊢
    cases allowed : Registry.checkKind kind with
    | ok => exact ⟨rfl, rfl, rfl⟩
    | error error =>
        rw [allowed] at success
        cases success

theorem register_of_allowed {kind : String} {definition : OperatorDefinition}
    (clean : builder.error? = none)
    (allowed : Registry.checkKind kind = .ok ()) :
    builder.register kind definition =
      { builder with
        operators := builder.operators.define kind definition } := by
  unfold register Registry.register
  rw [clean, allowed]
  rfl

/-- No step takes an error back. -/
theorem error?_of_take {step : ConfigStep}
    (success : (builder.take step).error? = none) : builder.error? = none := by
  cases step with
  | dialect | booleanStyle | extension => exact success
  | operator kind definition =>
      exact (register_of_error?_eq_none success).1

theorem error?_of_takeAll (success : (builder.takeAll steps).error? = none) :
    builder.error? = none := by
  induction steps generalizing builder with
  | nil => exact success
  | cons step steps induction =>
      apply error?_of_take
      apply induction
      exact success

theorem build_eq_ok_iff {config : Config} :
    builder.build = .ok config ↔
      builder.error? = none ∧
        config = ⟨builder.dialect, builder.booleanStyle, builder.operators⟩ := by
  unfold build
  cases builder.error? with
  | none => simp [eq_comm]
  | some error => simp

end ConfigBuilder

/-- The configuration that a row of steps makes, or the first error. -/
def Config.ofSteps (steps : List ConfigStep) : ExprResult Config :=
  (ConfigBuilder.takeAll {} steps).build

end SqlExpr
