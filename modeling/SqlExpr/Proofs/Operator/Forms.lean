import SqlExpr.Config.Basic

/-!
# The forms of registered operators

A rendering reads nothing of a registered operator but its form.  The form of
a kind is that of its last definition.  A form is a standard one unless it is
a template other than those of the two arrays.
-/

namespace SqlExpr

namespace OperatorForm

/-- Whether an operator of this form stands between two operands. -/
def isInfix : OperatorForm → Bool
  | infixed _ => true
  | _ => false

/-- Infix, prefix, postfix, or one of the forms of arrays. -/
def IsStandard : OperatorForm → Prop
  | template shape =>
    shape = Extension.arrayTemplate "]" ∨
      shape = Extension.arrayTemplate "]::text[]"
  | _ => True

end OperatorForm

/-- A definition changes what is registered for its own kind and for no
other. -/
theorem Registry.get?_define {registry : Registry} {kind asked : String}
    {definition : OperatorDefinition} :
    (registry.define kind definition).get? asked =
      if asked = kind then some definition else registry.get? asked :=
  Keyed.get?_insert kind asked definition registry.entries

/-- Installing an extension keeps what each of its definitions keeps. -/
theorem Extension.install_induction (property : Registry → Prop)
    {extension : Extension} {registry : Registry}
    (start : property registry)
    (step : ∀ registry, ∀ entry ∈ extension.definitions,
      property registry → property (registry.define entry.1 entry.2)) :
    property (extension.install registry) := by
  unfold install
  generalize extension.definitions = definitions at step
  induction definitions generalizing registry with
  | nil => exact start
  | cons entry definitions induction =>
      apply induction
      · exact step registry entry List.mem_cons_self start
      · intro registry entry member
        exact step registry entry (List.mem_cons_of_mem _ member)

namespace Registry

variable {registry other : Registry} {kind : String}

/-- The form with which a kind is registered. -/
def form? (registry : Registry) (kind : String) : Option OperatorForm :=
  (registry.get? kind).map OperatorDefinition.form

theorem form?_define {definition : OperatorDefinition} {asked : String} :
    (registry.define kind definition).form? asked =
      if asked = kind then some definition.form
      else registry.form? asked := by
  unfold form?
  rw [get?_define]
  split <;> rfl

/-- A kind without a form is not found. -/
theorem find_of_form?_eq_none (unknown : registry.form? kind = none) :
    registry.find kind = .error (.unknownOperator kind) := by
  unfold form? at unknown
  rw [Option.map_eq_none_iff] at unknown
  unfold find
  rw [unknown]

theorem find_of_form?_eq_some {form : OperatorForm}
    (known : registry.form? kind = some form) :
    ∃ definition, registry.find kind = .ok definition ∧
      definition.form = form := by
  unfold form? at known
  obtain ⟨definition, entered, own⟩ := Option.map_eq_some_iff.mp known
  unfold find
  rw [entered]
  exact ⟨definition, rfl, own⟩

/-- What is found under a kind has the kind's form. -/
theorem form?_of_find {definition : OperatorDefinition}
    (found : registry.find kind = .ok definition) :
    registry.form? kind = some definition.form := by
  unfold find at found
  unfold form?
  split at found
  next entered =>
    cases found
    rw [entered]
    rfl
  next => cases found

/-- Where two registries have one form for a kind, they find either definitions
with this form, or none in the same way. -/
theorem find_of_form? (same : registry.form? kind = other.form? kind) :
    (∃ error, registry.find kind = .error error ∧
        other.find kind = .error error) ∨
      ∃ definition second, registry.find kind = .ok definition ∧
        other.find kind = .ok second ∧ definition.form = second.form := by
  cases known : registry.form? kind with
  | none =>
      rw [known] at same
      exact .inl ⟨_, find_of_form?_eq_none known,
        find_of_form?_eq_none same.symm⟩
  | some form =>
      rw [known] at same
      obtain ⟨definition, found, own⟩ := find_of_form?_eq_some known
      obtain ⟨second, foundToo, ownToo⟩ := find_of_form?_eq_some same.symm
      exact .inr ⟨definition, second, found, foundToo, own.trans ownToo.symm⟩

/-- Whatever is passed to an array becomes one list without lists in it. -/
theorem unary_array {close : String}
    (foreign : UnaryOperator.ofKind? kind = none)
    (known : registry.get? kind = some (Extension.arrayDefinition close))
    (operand : Operand) :
    registry.unary kind operand =
      .ok (.unary kind (.list (Extension.flattenAll operand.items))) := by
  unfold unary find
  rw [foreign, known]
  rfl

/-! ## Registries with standard forms -/

def HasStandardForms (registry : Registry) : Prop :=
  ∀ kind, ∀ form ∈ registry.form? kind, form.IsStandard

namespace HasStandardForms

theorem empty : Registry.empty.HasStandardForms := by
  intro kind form known
  cases known

theorem define (standard : registry.HasStandardForms)
    {definition : OperatorDefinition} (own : definition.form.IsStandard) :
    (registry.define kind definition).HasStandardForms := by
  intro asked form known
  rw [form?_define] at known
  split at known
  · cases known
    exact own
  · exact standard asked form known

theorem install (standard : registry.HasStandardForms)
    (extension : Extension) :
    (extension.install registry).HasStandardForms := by
  have each : ∀ entry ∈ Extension.json.definitions,
      entry.2.form.IsStandard := by
    simp [Extension.definitions, Extension.arrayDefinitions,
      Extension.jsonDefinitions, Extension.arrayDefinition,
      Extension.infixDefinition, Extension.pathDefinition,
      OperatorForm.IsStandard]
  apply Extension.install_induction HasStandardForms standard
  intro registry entry member standard
  apply standard.define
  cases extension with
  | array => exact each entry (List.mem_append_left _ member)
  | json => exact each entry member

theorem postgres : Config.postgres.operators.HasStandardForms :=
  (empty.install .array).install .json

end HasStandardForms

end Registry

end SqlExpr
