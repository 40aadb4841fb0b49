import SqlExpr.Error

/-!
# Renderings

The outcome of writing a part of an expression: the text written so far, and
the error that ended the writing, if there was one.  Renderings are put
together in the order in which they are written; nothing follows an error.
-/

namespace SqlExpr

/-- Text written so far, and the error after which nothing was written. -/
structure Rendering where
  text : String
  error? : Option ExprError
  deriving DecidableEq, Inhabited, Repr

namespace Rendering

/-- Text without an error. -/
def write (text : String) : Rendering := ⟨text, none⟩

def empty : Rendering := write ""

/-- An error before which nothing was written. -/
def fail (error : ExprError) : Rendering := ⟨"", some error⟩

/-- Text that is written only if it can be made. -/
def ofResult : ExprResult String → Rendering
  | .ok text => write text
  | .error error => fail error

/-- A check that writes nothing. -/
def ofCheck : ExprResult Unit → Rendering
  | .ok () => empty
  | .error error => fail error

/-- One rendering after the other; the second one counts only if the first one
has no error. -/
def append (first second : Rendering) : Rendering :=
  match first.error? with
  | some _ => first
  | none => ⟨first.text ++ second.text, second.error?⟩

instance : Append Rendering := ⟨append⟩

/-- Renderings with a separator between neighbours. -/
def join (separator : String) : List Rendering → Rendering
  | [] => empty
  | [rendering] => rendering
  | rendering :: rest => rendering ++ write separator ++ join separator rest

/-- The whole text, or the error. -/
def result (rendering : Rendering) : ExprResult String :=
  match rendering.error? with
  | some error => .error error
  | none => .ok rendering.text

@[simp] theorem empty_append (rendering : Rendering) :
    empty ++ rendering = rendering := by
  obtain ⟨text, error?⟩ := rendering
  exact congrArg (Rendering.mk · error?) String.empty_append

@[simp] theorem append_empty (rendering : Rendering) :
    rendering ++ empty = rendering := by
  obtain ⟨text, _ | error⟩ := rendering
  · exact congrArg (Rendering.mk · none) String.append_empty
  · rfl

/-- How renderings are put together does not matter, only their order. -/
theorem append_assoc (first second third : Rendering) :
    first ++ second ++ third = first ++ (second ++ third) := by
  obtain ⟨text, _ | error⟩ := first
  · obtain ⟨more, _ | error⟩ := second
    · exact congrArg (Rendering.mk · third.error?) String.append_assoc
    · rfl
  · rfl

@[simp] theorem write_append_write (first second : String) :
    write first ++ write second = write (first ++ second) := rfl

@[simp] theorem fail_append (error : ExprError) (rendering : Rendering) :
    fail error ++ rendering = fail error := rfl

end Rendering

end SqlExpr
