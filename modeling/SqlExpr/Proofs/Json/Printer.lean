import SqlExpr.Json.Printer
import SqlExpr.Proofs.Number.Digits
import SqlExpr.Proofs.Text.Pieces
import SqlExpr.Proofs.Text.Quoted

/-!
# JSON text has no controls

Whatever a document holds, its text has no character below the blank: controls
inside of strings are written as escapes.  So the text of a document can always
be quoted.
-/

namespace SqlExpr

open SqlExpr.Name SqlExpr.Number SqlExpr.Text

/-- A text without characters below the blank. -/
def Text.WithoutControls (text : String) : Prop := ∀ c ∈ text.toList, ' ' ≤ c

instance (text : String) : Decidable (WithoutControls text) :=
  List.decidableBAll (fun c => ' ' ≤ c) text.toList

namespace Text.WithoutControls

variable {first second : String}

theorem append (left : WithoutControls first)
    (right : WithoutControls second) : WithoutControls (first ++ second) := by
  intro c member
  rw [String.toList_append, List.mem_append] at member
  obtain before | after := member
  · exact left c before
  · exact right c after

theorem joinWith {separator : String} {pieces : List String}
    (between : WithoutControls separator)
    (each : ∀ piece ∈ pieces, WithoutControls piece) :
    WithoutControls (joinWith separator pieces) := by
  intro c member
  obtain inside | ⟨piece, known, inside⟩ := of_mem_joinWith member
  · exact between c inside
  · exact each piece known c inside

theorem ofDigits {text : List Char}
    (allDigits : ∀ c ∈ text, isAsciiDigit c) :
    WithoutControls (String.ofList text) := by
  intro c member
  rw [String.toList_ofList] at member
  have digit := allDigits c member
  simp only [isAsciiDigit, Bool.and_eq_true, decide_eq_true_eq] at digit
  have low : ' ' ≤ '0' := by decide
  exact Char.le_trans low digit.1

theorem hasNul_eq_false {text : String} (clean : WithoutControls text) :
    hasNul text = false := by
  apply hasNul_eq_false_iff.mpr
  intro member
  exact absurd (clean _ member) (by decide)

end Text.WithoutControls

/-! ## Numbers -/

namespace Number

theorem withoutControls_integerText (value : Int) :
    WithoutControls (integerText value) := by
  have natural (n : Nat) : WithoutControls (naturalText n) :=
    .ofDigits fun _ => isAsciiDigit_of_mem_digits
  cases value with
  | ofNat n => exact natural n
  | negSucc n => exact .append (by decide) (natural (n + 1))

theorem withoutControls_positionalText (number : DecimalDigits) :
    WithoutControls (jsonLayout.positionalText number) := by
  obtain ⟨coefficient, exponent⟩ := number
  cases exponent with
  | ofNat zeros =>
      apply WithoutControls.append
      · apply WithoutControls.ofDigits
        intro c member
        obtain digit | zero := List.mem_append.mp member
        · exact isAsciiDigit_of_mem_digits digit
        · rw [List.eq_of_mem_replicate zero]
          decide
      · decide
  | negSucc places =>
      have padded (width : Nat) : ∀ c ∈
          List.replicate width '0' ++ digits coefficient, isAsciiDigit c :=
        fun _ => isAsciiDigit_of_mem_padded
      apply WithoutControls.append
      · apply WithoutControls.append
        · exact .ofDigits fun c member => padded _ c (List.mem_of_mem_take member)
        · decide
      · exact .ofDigits fun c member => padded _ c (List.mem_of_mem_drop member)

theorem withoutControls_exponentText (power : Int) (number : DecimalDigits) :
    WithoutControls (exponentText power number) := by
  have coefficient : ∀ c ∈ digits number.coefficient, isAsciiDigit c :=
    fun _ => isAsciiDigit_of_mem_digits
  unfold exponentText
  apply WithoutControls.append
  · apply WithoutControls.append
    · apply WithoutControls.append
      · apply WithoutControls.append
        · exact .ofDigits fun c member =>
            coefficient c (List.mem_of_mem_take member)
        · split
          · decide
          · apply WithoutControls.append
            · decide
            · exact .ofDigits fun c member =>
                coefficient c (List.mem_of_mem_drop member)
      · decide
    · split <;> decide
  · exact withoutControls_integerText power

theorem withoutControls_digitsText (number : DecimalDigits) :
    WithoutControls (jsonLayout.digitsText number) := by
  simp only [Layout.digitsText]
  split
  · exact withoutControls_positionalText number
  · exact withoutControls_exponentText _ number

theorem withoutControls_floatText {value : Binary64} {text : String}
    (written : jsonLayout.text? value = some text) :
    WithoutControls text := by
  cases value with
  | finite negative significand exponent =>
      rw [← Option.some.inj written]
      apply WithoutControls.append
      · cases negative <;> decide
      · exact withoutControls_digitsText _
  | _ => cases written

end Number

/-! ## Documents -/

namespace Json

theorem withoutControls_escapeChar (c : Char) :
    WithoutControls (escapeChar c) := by
  have escape : ∀ n < 32,
      WithoutControls (String.ofList (Nat.toDigits 16 n)) := by decide
  unfold escapeChar
  split
  · decide
  · decide
  · decide
  · decide
  · decide
  · decide
  · decide
  · split
    next low =>
      apply WithoutControls.append
      · decide
      · exact escape c.toNat (by omega)
    next =>
      split
      next low =>
        apply WithoutControls.append
        · decide
        · exact escape c.toNat low
      next high =>
        intro d member
        have same : d = c := by simpa [Char.toString] using member
        subst same
        have order : (32 : Nat) ≤ d.toNat := by omega
        exact order

theorem withoutControls_stringText (text : String) :
    WithoutControls (stringText text) := by
  have inside : WithoutControls (String.join (text.toList.map escapeChar)) := by
    intro c member
    simp only [String.toList_join, List.flatMap_map, List.mem_flatMap]
      at member
    obtain ⟨held, _, written⟩ := member
    exact withoutControls_escapeChar held c written
  exact .append (.append (by decide) inside) (by decide)

mutual

theorem withoutControls_text (document : Json) :
    WithoutControls document.text := by
  cases document with
  | null => decide
  | bool value => cases value <;> decide
  | integer value => exact withoutControls_integerText value
  | float value =>
      unfold text
      cases written : jsonLayout.text? value with
      | none => decide
      | some own => exact withoutControls_floatText written
  | string value => exact withoutControls_stringText value
  | array items =>
      have each := withoutControls_itemTexts items
      exact .append (.append (by decide) (.joinWith (by decide) each))
        (by decide)
  | object members =>
      have each := withoutControls_memberTexts members
      exact .append (.append (by decide) (.joinWith (by decide) each))
        (by decide)

theorem withoutControls_itemTexts (items : List Json) :
    ∀ piece ∈ itemTexts items, WithoutControls piece := by
  cases items with
  | nil => exact List.forall_mem_nil _
  | cons item items =>
      rw [itemTexts, List.forall_mem_cons]
      exact ⟨withoutControls_text item, withoutControls_itemTexts items⟩

theorem withoutControls_memberTexts (members : List (String × Json)) :
    ∀ piece ∈ memberTexts members, WithoutControls piece := by
  cases members with
  | nil => exact List.forall_mem_nil _
  | cons member members =>
      obtain ⟨key, value⟩ := member
      rw [memberTexts, List.forall_mem_cons]
      have own : WithoutControls (stringText key ++ ":" ++ value.text) :=
        .append (.append (withoutControls_stringText key) (by decide))
          (withoutControls_text value)
      exact ⟨own, withoutControls_memberTexts members⟩

end

end Json

end SqlExpr
