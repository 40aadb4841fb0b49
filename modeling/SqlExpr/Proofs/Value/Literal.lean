import SqlExpr.Proofs.Json.Printer
import SqlExpr.Proofs.Output.Rendering
import SqlExpr.Value.Literal

/-!
# How values are written

A value is written behind what a buffer holds as one token, the same behind
every buffer, or is refused before any of it is written.  Two kinds of values
are refused: floating-point numbers that are not finite, and texts with a NUL
character.  A JSON document is written as a text, but there the NUL character is
escaped.
-/

namespace SqlExpr

open SqlExpr.Number SqlExpr.Text

/-! ## Texts -/

section

variable {text : String}

/-- Character by character, a text is written with its quotes doubled. -/
theorem foldl_pushQuoted (buffer : String) (letters : List Char) :
    letters.foldl pushQuoted buffer =
      buffer ++ String.ofList (doubleMarks '\'' letters) := by
  -- The buffer grows with every character, so it is not fixed here.
  induction letters generalizing buffer with
  | nil => exact String.append_empty.symm
  | cons c letters induction =>
      rw [List.foldl_cons, induction, ← String.toList_inj]
      by_cases quote : c = '\'' <;> simp [pushQuoted, doubleMarks, quote]

theorem writeText_of_nul (held : hasNul text = true) (buffer : String) :
    writeText buffer text = ⟨buffer, some .nulInText⟩ := if_pos held

theorem writeText_of_clean (clean : hasNul text = false) (buffer : String) :
    writeText buffer text = .write (buffer ++ quoted '\'' text) := by
  have refused : ¬ hasNul text = true := Bool.eq_false_iff.mp clean
  rw [writeText, if_neg refused, foldl_pushQuoted]
  apply congrArg Rendering.write
  rw [← String.toList_inj]
  simp [quoted]

theorem writeText_isAtomic (text : String) :
    Rendering.IsAtomic (writeText · text) := by
  cases held : hasNul text with
  | true => exact .inr ⟨_, writeText_of_nul held⟩
  | false => exact .inl ⟨_, writeText_of_clean held⟩

end

theorem writeFloat_isAtomic (value : Binary64) :
    Rendering.IsAtomic (writeFloat · value) := by
  cases value with
  | finite => exact .inl ⟨_, fun _ => rfl⟩
  | nan | infinity => exact .inr ⟨_, fun _ => rfl⟩

/-! ## Values -/

namespace Value

variable {style : BooleanStyle} {value : Value}

/-- A value is written as a whole or not at all. -/
theorem writeTo_isAtomic (style : BooleanStyle) (value : Value) :
    Rendering.IsAtomic (value.writeTo style) := by
  cases value with
  | text value => exact writeText_isAtomic value
  | json document => exact writeText_isAtomic document.text
  | float value => exact writeFloat_isAtomic value
  | _ => exact .inl ⟨_, fun _ => rfl⟩

/-- What a value writes into an empty buffer is its literal. -/
@[simp] theorem ofResult_literal (style : BooleanStyle) (value : Value) :
    .ofResult (value.literal style) = value.writeTo style "" :=
  (writeTo_isAtomic style value).ofResult_result

/-- The token that a value writes is its literal. -/
theorem literal_of_writeTo {token : String}
    (written : value.writeTo style "" = .write ("" ++ token)) :
    value.literal style = .ok token := by
  rw [literal, written, String.empty_append]
  rfl

/-- A value that is written as a text without quotes of its own stands between
single quotes. -/
theorem literal_of_quoted {text : String}
    (written : value.writeTo style "" = .write ("" ++ quoted '\'' text))
    (unquoted : '\'' ∉ text.toList) :
    value.literal style = .ok ("'" ++ text ++ "'") := by
  rw [literal_of_writeTo written, quoted_of_not_mem unquoted]
  rfl

/-- A value that is refused leaves the buffer as it was. -/
theorem writeTo_of_error {buffer : String} {error : ExprError}
    (failed : (value.writeTo style buffer).error? = some error) :
    value.writeTo style buffer = ⟨buffer, some error⟩ :=
  (writeTo_isAtomic style value).eq_of_error failed

/-- Behind what a buffer holds, a value is written as its literal. -/
theorem writeTo_eq_append (buffer : String) :
    value.writeTo style buffer =
      .write buffer ++ .ofResult (value.literal style) := by
  rw [ofResult_literal]
  exact (writeTo_isAtomic style value).eq_append buffer

def IsWritable : Value → Prop
  | float value => value.isFinite
  | text value => hasNul value = false
  | _ => True

/-- Why a value cannot be written. -/
def fault? : Value → Option ExprError
  | float value =>
    if value.isFinite then none
    else some (.nonFiniteFloat value.nonFiniteName)
  | text value => if hasNul value then some .nulInText else none
  | _ => none

theorem fault?_eq_none_iff : value.fault? = none ↔ value.IsWritable := by
  cases value <;> simp [fault?, IsWritable]

/-- What cannot be written is refused with its reason, and nothing else is. -/
theorem error?_writeTo (style : BooleanStyle) (buffer : String) :
    (value.writeTo style buffer).error? = value.fault? := by
  cases value with
  | float value => cases value <;> rfl
  | text value =>
      cases held : hasNul value with
      | true => simp [writeTo, writeText_of_nul held, fault?, held]
      | false => simp [writeTo, writeText_of_clean held, fault?, held]
  | json document =>
      have clean := (Json.withoutControls_text document).hasNul_eq_false
      rw [writeTo, writeText_of_clean clean]
      rfl
  | _ => rfl

theorem error?_literal (style : BooleanStyle) :
    (Rendering.ofResult (value.literal style)).error? = value.fault? := by
  rw [ofResult_literal, error?_writeTo]

end Value

end SqlExpr
