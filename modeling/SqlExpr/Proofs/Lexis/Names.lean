import SqlExpr.Proofs.Lexis.Reading
import SqlExpr.Proofs.Name.Quoting

/-!
# Scanning names

A qualified name is scanned as one word: a letter or an underscore begins each
of its parts, and so neither a point nor a dollar ends the word.  In quotes each
part is a token of its own, with a point between neighbours.
-/

namespace SqlExpr.Lexis

open SqlExpr.Name SqlExpr.Text

/-! ## Bare names -/

/-- Behind anything but a point, a word goes on over the characters that plain
names go on with. -/
theorem run_word_inside {read : List Char} (last : read.getLast? ≠ some '.')
    (rest : List Char)
    (inside : ∀ c ∈ rest, beginsName c || isAsciiDigit c || c == '$') :
    (Mode.word read).run rest = ([], .word (read ++ rest)) := by
  induction rest generalizing read with
  | nil => rw [Mode.run_nil, List.append_nil]
  | cons c rest induction =>
      rw [List.forall_mem_cons] at inside
      have continues : continuesWord read c := by
        have own := inside.1
        simp only [Bool.or_eq_true, beq_iff_eq] at own
        rcases own with (letter | digit) | rfl
        · simp [continuesWord, beginsWord, letter]
        · simp [continuesWord, digit]
        · simp [continuesWord, last]
      have ends : (read ++ [c]).getLast? ≠ some '.' := by
        rw [List.getLast?_concat]
        intro same
        cases same
        cases inside.1
      have later := induction ends inside.2
      simp [Mode.run_cons, Mode.step, continues, later]

theorem run_word_plain {part : String} (plain : isPlain part)
    (read : List Char) :
    (Mode.word read).run part.toList = ([], .word (read ++ part.toList)) := by
  obtain ⟨first, rest, letters, letter, further⟩ :=
    exists_cons_of_isPlain plain
  have continues : continuesWord read first := by
    simp [continuesWord, beginsWord, letter]
  have ends : (read ++ [first]).getLast? ≠ some '.' := by
    rw [List.getLast?_concat]
    intro same
    cases same
    cases letter
  have later := run_word_inside ends rest further
  simp [letters, Mode.run_cons, Mode.step, continues, later]

theorem run_word_joined {part : String} {parts : List String}
    (plain : ∀ own ∈ part :: parts, isPlain own) (read : List Char) :
    (Mode.word read).run (joinWith "." (part :: parts)).toList =
      ([], .word (read ++ (joinWith "." (part :: parts)).toList)) := by
  induction parts generalizing part read with
  | nil => exact run_word_plain (plain part List.mem_cons_self) read
  | cons next parts induction =>
      rw [List.forall_mem_cons] at plain
      have point (read : List Char) :
          (Mode.word read).run ['.'] = ([], .word (read ++ ['.'])) := by
        simp [Mode.run_cons, Mode.step, continuesWord]
      have dot : ".".toList = ['.'] := rfl
      simp only [joinWith, String.toList_append, Mode.run_append,
        run_word_plain plain.1, dot, point, induction plain.2,
        List.append_nil, List.append_assoc]

/-- A letter begins a word that is empty so far. -/
theorem run_gap_letter {c : Char} (letter : beginsName c) (rest : List Char) :
    Mode.gap.run (c :: rest) = (Mode.word []).run (c :: rest) := by
  have begins : Mode.gap.step c = ([], .word [c]) :=
    start_letter (by simp [beginsWord, letter])
  have continues : (Mode.word []).step c = ([], .word [c]) := by
    simp [Mode.step, continuesWord, beginsWord, letter]
  rw [Mode.run_cons, Mode.run_cons, begins, continues]

/-- A qualified name is a word. -/
theorem reads_qualifiedName {name : String} {parts : List String}
    (qualified : qualifiedParts? name = some parts) :
    Reads name.toList [.word name] := by
  have joined := joinWith_of_qualifiedParts? qualified
  have plain := (qualifiedParts?_eq_some_iff.mp qualified).2
  obtain ⟨part, others, rfl⟩ :=
    List.exists_cons_of_ne_nil (qualifiedParts?_ne_nil qualified)
  obtain ⟨first, rest, letters, letter, -⟩ :=
    exists_cons_of_isPlain (plain part List.mem_cons_self)
  have longer : part ≠ "" := by
    rintro rfl
    cases letters
  have head : name.toList.head? = some first := by
    rw [← joined, head?_joinWith longer, letters, List.head?_cons]
  obtain ⟨tail, whole⟩ := List.head?_eq_some_iff.mp head
  have word := run_word_joined plain []
  rw [joined, List.nil_append, whole, ← run_gap_letter letter, ← whole]
    at word
  exact ⟨[], _, _, word, rfl, by rw [String.ofList_toList, List.nil_append]⟩

/-! ## Names in quotes -/

theorem completes_qualifier (name : String) :
    Completes ((quoted '"' name).toList ++ ['.']) [.name name, .mark '.'] := by
  have point : (Mode.quoteMark .double name.toList).step '.' =
      ([.name name, .mark '.'], .gap) := by
    simp only [Mode.step, Quote.token, String.ofList_toList]
    rfl
  have body : Mode.gap.run (quoted '"' name).toList =
      ([], .quoteMark .double name.toList) := run_gap_quoted .double name
  unfold Completes
  rw [Mode.run_append, body, Mode.run_cons, point]
  rfl

/-- Names in quotes with points between them. -/
theorem reads_quotedNames (name : String) (names : List String) :
    Reads (joinWith "." ((name :: names).map (quoted '"'))).toList
      (((name :: names).map Token.name).intersperse (.mark '.')) := by
  induction names generalizing name with
  | nil => exact reads_quoted .double name
  | cons next names induction =>
      have whole := (completes_qualifier name).append_reads (induction next)
      simpa [joinWith] using whole

end SqlExpr.Lexis
