import SqlExpr.Render.Position

/-!
# Outcomes of renderings

A rendering has a text exactly if none of its parts fails, and its error is
that of the first part that does.  A part that is written onto a buffer is
written as a whole or not at all, whatever the buffer holds.
-/

namespace SqlExpr.Rendering

variable {rendering first second : Rendering} {text : String}
  {error : ExprError}

theorem result_eq_ok_iff :
    rendering.result = .ok text ↔ rendering = write text := by
  obtain ⟨written, _ | error⟩ := rendering <;> simp [result, write]

theorem result_eq_error_iff :
    rendering.result = .error error ↔ rendering.error? = some error := by
  obtain ⟨written, _ | error⟩ := rendering <;> simp [result]

theorem exists_write_iff :
    (∃ text, rendering = write text) ↔ rendering.error? = none := by
  obtain ⟨written, _ | error⟩ := rendering <;> simp [write]

@[simp] theorem error?_write : (write text).error? = none := rfl

@[simp] theorem error?_empty : empty.error? = none := rfl

@[simp] theorem error?_fail : (fail error).error? = some error := rfl

@[simp] theorem error?_append :
    (first ++ second).error? = first.error?.or second.error? := by
  obtain ⟨written, _ | error⟩ := first <;> rfl

/-- Behind an error nothing is written. -/
theorem append_of_error (failed : first.error? = some error)
    (second : Rendering) : first ++ second = first := by
  obtain ⟨text, _ | own⟩ := first
  · cases failed
  · rfl

theorem join_append (separator : String) {first second : List Rendering}
    (firstSome : first ≠ []) (secondSome : second ≠ []) :
    join separator (first ++ second) =
      join separator first ++ write separator ++ join separator second := by
  induction first with
  | nil => exact absurd rfl firstSome
  | cons rendering first induction =>
      cases first with
      | nil =>
          cases second with
          | nil => exact absurd rfl secondSome
          | cons next second => rfl
      | cons next first =>
          have later := induction (List.cons_ne_nil next first)
          simp only [List.cons_append, join] at later ⊢
          rw [later]
          simp only [append_assoc]

/-- If two renderings in a row have a text, each of them has. -/
theorem append_eq_write {first second : Rendering} {text : String}
    (success : first ++ second = write text) :
    ∃ before after, first = write before ∧ second = write after ∧
      text = before ++ after := by
  obtain ⟨before, _ | error⟩ := first
  · obtain ⟨after, error?⟩ := second
    have parts : before ++ after = text ∧ error? = none := by
      simpa [HAppend.hAppend, Append.append, append, write] using success
    obtain ⟨rfl, rfl⟩ := parts
    exact ⟨before, after, rfl, rfl, rfl⟩
  · cases success

theorem write_injective : Function.Injective write := by
  intro text other same
  exact congrArg Rendering.text same

theorem result_write_inj {other : String} :
    (write text).result = (write other).result ↔ text = other := by
  simp [result, write]

/-- What stands around a node does not fail. -/
theorem error?_place (position : Position) (node : Node) (body : Rendering) :
    (position.place node body).error? = body.error? := by
  unfold Position.place
  split <;> simp

/-! ## Writers -/

/-- A writer puts the same text behind every buffer, or refuses and leaves
every buffer as it was. -/
def IsAtomic (writer : String → Rendering) : Prop :=
  (∃ text, ∀ buffer, writer buffer = write (buffer ++ text)) ∨
    ∃ error, ∀ buffer, writer buffer = ⟨buffer, some error⟩

namespace IsAtomic

variable {writer : String → Rendering} {buffer : String} {error : ExprError}

theorem eq_of_error (atomic : IsAtomic writer)
    (failed : (writer buffer).error? = some error) :
    writer buffer = ⟨buffer, some error⟩ := by
  rcases atomic with ⟨text, writes⟩ | ⟨own, refuses⟩
  · rw [writes] at failed
    cases failed
  · rw [refuses] at failed ⊢
    cases failed
    rfl

/-- What stands in the buffer does not matter for what is written behind it. -/
theorem eq_append (atomic : IsAtomic writer) (buffer : String) :
    writer buffer = write buffer ++ writer "" := by
  rcases atomic with ⟨text, writes⟩ | ⟨error, refuses⟩
  · rw [writes, writes, String.empty_append]
    rfl
  · rw [refuses, refuses]
    exact congrArg (Rendering.mk · _) String.append_empty.symm

theorem ofResult_result (atomic : IsAtomic writer) :
    ofResult (writer "").result = writer "" := by
  rcases atomic with ⟨text, writes⟩ | ⟨error, refuses⟩
  · rw [writes]
    rfl
  · rw [refuses]
    rfl

end IsAtomic

end SqlExpr.Rendering
