import SqlExpr.Proofs.Lexis.Reading

/-!
# Reading quoted text

A quoted text ends at the first mark that no second one follows.  Its reader
gives what stands between the marks, with doubled marks undone, and what is
behind it.  A text between marks is read as itself, before anything that does
not begin with the mark, and the scanner of SQL text finds the same token.
-/

namespace SqlExpr.Lexis

open SqlExpr.Text

/-- What stands before the mark that ends a quoted text, and what is behind
that mark. -/
def readContent? (mark : Char) : List Char → Option (List Char × List Char)
  | [] => none
  | [c] => if c = mark then some ([], []) else none
  | c :: next :: rest =>
    if c = mark then
      if next = mark then
        (readContent? mark rest).map fun read => (mark :: read.1, read.2)
      else some ([], next :: rest)
    else
      (readContent? mark (next :: rest)).map fun read => (c :: read.1, read.2)

/-- The quoted text at the beginning of a text, and what is behind it. -/
def Quote.read? (quote : Quote) : List Char → Option (String × List Char)
  | [] => none
  | c :: rest =>
    if c = quote.mark then
      (readContent? quote.mark rest).map fun read =>
        (String.ofList read.1, read.2)
    else none

section Reading

variable {mark : Char} {rest : List Char}

theorem readContent?_end (next : rest.head? ≠ some mark) :
    readContent? mark (mark :: rest) = some ([], rest) := by
  cases rest with
  | nil => simp [readContent?]
  | cons c rest =>
      have other : c ≠ mark := by simpa using next
      simp [readContent?, other]

theorem readContent?_mark (rest : List Char) :
    readContent? mark (mark :: mark :: rest) =
      (readContent? mark rest).map fun read => (mark :: read.1, read.2) := by
  simp [readContent?]

theorem readContent?_other {c : Char} (other : c ≠ mark) (rest : List Char) :
    readContent? mark (c :: rest) =
      (readContent? mark rest).map fun read => (c :: read.1, read.2) := by
  cases rest <;> simp [readContent?, other]

/-- What was written with doubled marks is read back, before anything that does
not go on with a mark. -/
theorem readContent?_doubleMarks (next : rest.head? ≠ some mark)
    (content : List Char) :
    readContent? mark (doubleMarks mark content ++ mark :: rest) =
      some (content, rest) := by
  induction content with
  | nil => exact readContent?_end next
  | cons c content induction =>
      by_cases same : c = mark
      · subst same
        simp [doubleMarks, readContent?_mark, induction]
      · simp [doubleMarks, same, readContent?_other same, induction]

theorem exists_of_map_readContent? {c : Char} {text content : List Char}
    (read : (readContent? mark text).map (fun read => (c :: read.1, read.2)) =
      some (content, rest)) :
    ∃ inner, readContent? mark text = some (inner, rest) ∧
      content = c :: inner := by
  obtain ⟨⟨inner, behind⟩, known, same⟩ := Option.map_eq_some_iff.mp read
  obtain ⟨rfl, rfl⟩ := Prod.mk.inj same
  exact ⟨inner, known, rfl⟩

/-- Behind a quoted text there is less than there was before. -/
theorem length_lt_of_readContent? {text content : List Char}
    (read : readContent? mark text = some (content, rest)) :
    rest.length < text.length := by
  fun_induction readContent? mark text generalizing content with
  | case1 => cases read
  | case2 =>
      cases read
      simp
  | case3 => cases read
  | case4 text induction =>
      obtain ⟨inner, known, rfl⟩ := exists_of_map_readContent? read
      have shorter := induction known
      simp only [List.length_cons]
      omega
  | case5 c text other =>
      cases read
      simp
  | case6 c next text other induction =>
      obtain ⟨inner, known, rfl⟩ := exists_of_map_readContent? read
      have shorter := induction known
      simp only [List.length_cons] at shorter ⊢
      omega

theorem Quote.exists_of_read? {quote : Quote} {text : List Char}
    {content : String} (read : quote.read? text = some (content, rest)) :
    ∃ inside inner, text = quote.mark :: inside ∧
      readContent? quote.mark inside = some (inner, rest) ∧
      content = String.ofList inner := by
  cases text with
  | nil => cases read
  | cons c inside =>
      simp only [read?, Option.ite_none_right_eq_some] at read
      obtain ⟨rfl, some⟩ := read
      obtain ⟨⟨inner, behind⟩, known, same⟩ := Option.map_eq_some_iff.mp some
      obtain ⟨rfl, rfl⟩ := Prod.mk.inj same
      exact ⟨inside, inner, rfl, known, rfl⟩

theorem Quote.length_lt_of_read? {quote : Quote} {text : List Char}
    {content : String} (read : quote.read? text = some (content, rest)) :
    rest.length < text.length := by
  obtain ⟨inside, inner, rfl, known, rfl⟩ := exists_of_read? read
  exact Nat.lt_succ_of_lt (length_lt_of_readContent? known)

theorem Quote.read?_quoted (quote : Quote)
    (next : rest.head? ≠ some quote.mark) (text : String) :
    quote.read? ((quoted quote.mark text).toList ++ rest) =
      some (text, rest) := by
  have content := readContent?_doubleMarks next text.toList
  simp [quoted, read?, content]

end Reading

/-! ## The scanner of SQL text -/

/-- The tokens of what is left of a text, from where the scanner stands. -/
def Mode.scanRest (mode : Mode) (text : List Char) : Option (List Token) :=
  (mode.run text).2.finish?.map ((mode.run text).1 ++ ·)

theorem scanChars_eq_scanRest (text : List Char) :
    scanChars text = Mode.gap.scanRest text := rfl

theorem Mode.scanRest_cons (mode : Mode) (c : Char) (rest : List Char) :
    mode.scanRest (c :: rest) =
      ((mode.step c).2.scanRest rest).map ((mode.step c).1 ++ ·) := by
  simp [scanRest, run_cons, Function.comp_def]

theorem scanRest_quoted_mark (quote : Quote) (seen rest : List Char) :
    (Mode.quoted quote seen).scanRest (quote.mark :: quote.mark :: rest) =
      (Mode.quoted quote (seen ++ [quote.mark])).scanRest rest := by
  simp [Mode.scanRest_cons, Mode.step]

theorem scanRest_quoted_other {quote : Quote} {c : Char}
    (other : c ≠ quote.mark) (seen rest : List Char) :
    (Mode.quoted quote seen).scanRest (c :: rest) =
      (Mode.quoted quote (seen ++ [c])).scanRest rest := by
  simp [Mode.scanRest_cons, Mode.step, other]

theorem scanRest_quoted_end {quote : Quote} {rest : List Char}
    (next : rest.head? ≠ some quote.mark) (seen : List Char) :
    (Mode.quoted quote seen).scanRest (quote.mark :: rest) =
      (scanChars rest).map (quote.token (String.ofList seen) :: ·) := by
  cases rest with
  | nil => simp [Mode.scanRest, scanChars, Mode.run_cons, Mode.step,
      Mode.finish?, Mode.pending?]
  | cons c rest =>
      have other : c ≠ quote.mark := by simpa using next
      have begins : Mode.gap.step c = start c := rfl
      simp [scanChars_eq_scanRest, Mode.scanRest_cons, Mode.step, other,
        interrupt, Function.comp_def]

/-- The scanner ends a quoted text where the reader does, and goes on behind it
as at the beginning of a text. -/
theorem scanRest_of_readContent? {quote : Quote} {text content rest : List Char}
    (read : readContent? quote.mark text = some (content, rest))
    (seen : List Char) :
    (Mode.quoted quote seen).scanRest text =
      (scanChars rest).map
        (quote.token (String.ofList (seen ++ content)) :: ·) := by
  fun_induction readContent? quote.mark text generalizing seen content with
  | case1 => cases read
  | case2 =>
      cases read
      rw [List.append_nil]
      exact scanRest_quoted_end (by simp) seen
  | case3 => cases read
  | case4 text induction =>
      obtain ⟨inner, known, rfl⟩ := exists_of_map_readContent? read
      rw [scanRest_quoted_mark, induction known]
      simp
  | case5 c text other =>
      cases read
      rw [List.append_nil]
      exact scanRest_quoted_end (by simpa using other) seen
  | case6 c next text other induction =>
      obtain ⟨inner, known, rfl⟩ := exists_of_map_readContent? read
      rw [scanRest_quoted_other other, induction known]
      simp

/-- The reader of quoted texts and the scanner of SQL text agree. -/
theorem Quote.scanChars_of_read? {quote : Quote} {text rest : List Char}
    {content : String} (read : quote.read? text = some (content, rest)) :
    scanChars text = (scanChars rest).map (quote.token content :: ·) := by
  obtain ⟨inside, inner, rfl, known, rfl⟩ := exists_of_read? read
  rw [scanChars_eq_scanRest, Mode.scanRest_cons, step_quote]
  simp [scanRest_of_readContent? known, Function.comp_def]

end SqlExpr.Lexis
