import SqlExpr.Text.Quoted

/-!
# The characters of a quoted text

A text can stand between quotes if the NUL character is not in it.  There every
mark is written twice, and two more stand around it.
-/

namespace SqlExpr.Text

variable {text : String}

theorem hasNul_iff : hasNul text = true ↔ '\x00' ∈ text.toList := by
  simp [hasNul]

theorem hasNul_eq_false_iff : hasNul text = false ↔ '\x00' ∉ text.toList := by
  rw [← hasNul_iff, Bool.not_eq_true]

theorem count_doubleMarks (mark : Char) (text : List Char) :
    (doubleMarks mark text).count mark = 2 * text.count mark := by
  induction text with
  | nil => rfl
  | cons c rest induction =>
      unfold doubleMarks
      split
      next same =>
        subst same
        simp only [List.count_cons_self, induction]
        omega
      next other => simp [other, induction]

theorem doubleMarks_of_not_mem {mark : Char} {text : List Char}
    (absent : mark ∉ text) : doubleMarks mark text = text := by
  induction text with
  | nil => rfl
  | cons c rest induction =>
      obtain ⟨other, others⟩ := List.ne_and_not_mem_of_not_mem_cons absent
      rw [doubleMarks, if_neg other.symm, induction others]

theorem quoted_of_not_mem {mark : Char} (absent : mark ∉ text.toList) :
    quoted mark text =
      String.singleton mark ++ text ++ String.singleton mark := by
  rw [← String.toList_inj]
  simp [quoted, doubleMarks_of_not_mem absent]

theorem count_quoted (mark : Char) (text : String) :
    (quoted mark text).toList.count mark = 2 * text.toList.count mark + 2 := by
  simp [quoted, count_doubleMarks]

end SqlExpr.Text
