import SqlExpr.Name
import SqlExpr.Number.Digits

/-!
# The characters of numerals

Numerals are written with the ASCII digits.
-/

namespace SqlExpr

open SqlExpr.Name SqlExpr.Number

theorem isAsciiDigit_of_mem_digits {n : Nat} {c : Char}
    (member : c ∈ digits n) : isAsciiDigit c := by
  have digit : c.isDigit :=
    Nat.isDigit_of_mem_toDigits (by decide) (by decide) member
  simp only [Char.isDigit, Bool.and_eq_true, decide_eq_true_eq] at digit
  simp only [isAsciiDigit, Bool.and_eq_true, decide_eq_true_eq]
  exact digit

theorem isAsciiDigit_of_mem_padded {n width : Nat} {c : Char}
    (member : c ∈ List.replicate width '0' ++ digits n) : isAsciiDigit c := by
  rcases List.mem_append.mp member with zero | digit
  · rw [List.eq_of_mem_replicate zero]
    decide
  · exact isAsciiDigit_of_mem_digits digit

/-- A text of digits, at least one of them. -/
def Number.IsNumber (text : List Char) : Prop :=
  text ≠ [] ∧ ∀ c ∈ text, isDigit c

/-- Digits have no sign. -/
theorem readSign_of_digits {number : List Char} (nonempty : number ≠ [])
    (digits : ∀ c ∈ number, isDigit c) (rest : List Char) :
    readSign (number ++ rest) = (false, number ++ rest) := by
  cases number with
  | nil => exact absurd rfl nonempty
  | cons c number =>
      have digit : isDigit c := digits c List.mem_cons_self
      rw [List.cons_append, readSign.eq_3]
      · rintro _ ⟨⟩
        cases digit
      · rintro _ ⟨⟩
        cases digit

/-! ## The value of digits -/

theorem ofDigits_eq_ofDigitChars (text : List Char) :
    ofDigits text = Nat.ofDigitChars 10 text 0 :=
  Nat.ofDigitChars_eq_foldl.symm

theorem ofDigits_digits (n : Nat) : ofDigits (digits n) = n := by
  rw [ofDigits_eq_ofDigitChars]
  exact Nat.ofDigitChars_ten_toDigits

/-- Zeros in front of a number do not count. -/
theorem ofDigits_zeros_append (count : Nat) (text : List Char) :
    ofDigits (List.replicate count '0' ++ text) = ofDigits text := by
  simp only [ofDigits_eq_ofDigitChars, Nat.ofDigitChars_append,
    Nat.ofDigitChars_replicate_zero, Nat.mul_zero]

/-- A zero behind a number multiplies it by ten. -/
theorem ofDigits_append_zeros (text : List Char) (count : Nat) :
    ofDigits (text ++ List.replicate count '0') =
      ofDigits text * Nat.pow 10 count := by
  simp only [ofDigits_eq_ofDigitChars, Nat.ofDigitChars_append,
    Nat.ofDigitChars_replicate_zero]
  exact Nat.mul_comm ..

section Padded

variable {width n : Nat}

theorem ofDigits_paddedText : ofDigits (paddedText width n).toList = n := by
  rw [paddedText, String.toList_ofList, ofDigits_zeros_append,
    ofDigits_digits]

theorem isDigit_of_mem_paddedText {c : Char}
    (member : c ∈ (paddedText width n).toList) : isDigit c := by
  rw [paddedText, String.toList_ofList] at member
  exact isAsciiDigit_of_mem_padded member

theorem paddedText_ne_nil : (paddedText width n).toList ≠ [] := by
  rw [paddedText, String.toList_ofList]
  exact List.append_ne_nil_of_right_ne_nil _ Nat.toDigits_ne_nil

theorem length_paddedText (positive : 0 < width)
    (small : n < Nat.pow 10 width) :
    (paddedText width n).toList.length = width := by
  have short : (digits n).length ≤ width :=
    (Nat.length_toDigits_le_iff (by decide) positive).mpr small
  rw [paddedText, String.toList_ofList, List.length_append,
    List.length_replicate]
  omega

end Padded

end SqlExpr
