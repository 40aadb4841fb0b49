import SqlExpr.Proofs.Lexis.Scanner
import SqlExpr.Text.Quoted

/-!
# Reading text piece by piece

The scanner looks one character ahead, so the tokens of a text are not simply
those of its pieces.  They are if each piece is complete by itself, or if the
next one begins with a delimiter.  `Completes` and `Reads` are these two ways
for a piece to be read on its own, and the lemmas of this module put pieces
together.
-/

namespace SqlExpr.Lexis

open SqlExpr.Name SqlExpr.Text

/-- The characters before which every token that can end does end. -/
def isDelimiter (c : Char) : Bool :=
  isSpace c || c == ')' || c == ']' || c == ',' || c == ':'

/-- A text is empty or begins with a delimiter. -/
def Delimited (text : List Char) : Prop := text.head?.all isDelimiter

instance (text : List Char) : Decidable (Delimited text) :=
  inferInstanceAs (Decidable (text.head?.all isDelimiter = true))

/-- The text is read as the tokens, and nothing of it is pending. -/
def Completes (text : List Char) (tokens : List Token) : Prop :=
  Mode.gap.run text = (tokens, .gap)

/-- The text is read as the tokens, the last of which may be pending. -/
def Reads (text : List Char) (tokens : List Token) : Prop :=
  ∃ done last pending, Mode.gap.run text = (done, last) ∧
    last.pending? = some pending ∧ tokens = done ++ pending

theorem Delimited.append {text : List Char} (nonempty : text ≠ [])
    (delimited : Delimited text) (more : List Char) :
    Delimited (text ++ more) := by
  cases text with
  | nil => exact absurd rfl nonempty
  | cons c rest => exact delimited

namespace Mode

@[simp] theorem run_nil (mode : Mode) : mode.run [] = ([], mode) := rfl

theorem run_cons (mode : Mode) (c : Char) (rest : List Char) :
    mode.run (c :: rest) =
      ((mode.step c).1 ++ ((mode.step c).2.run rest).1,
        ((mode.step c).2.run rest).2) := rfl

theorem run_append (mode : Mode) (first second : List Char) :
    mode.run (first ++ second) =
      ((mode.run first).1 ++ ((mode.run first).2.run second).1,
        ((mode.run first).2.run second).2) := by
  induction first generalizing mode with
  | nil => simp
  | cons c rest induction =>
      simp only [List.cons_append, run_cons, induction, List.append_assoc]

/-- Before a delimiter the pending tokens end, whatever they are. -/
theorem step_of_delimiter {mode : Mode} {pending : List Token} {c : Char}
    (pause : mode.pending? = some pending) (delimiter : isDelimiter c) :
    mode.step c = interrupt pending c := by
  simp only [isDelimiter, isSpace, Bool.or_eq_true, beq_iff_eq] at delimiter
  cases mode with
  | quoteMark quote read =>
      cases pause
      obtain ((((((((rfl | rfl) | rfl) | rfl) | rfl) | rfl) | rfl) | rfl) | rfl)
        | rfl := delimiter <;> cases quote <;> rfl
  | _ =>
      obtain ((((((((rfl | rfl) | rfl) | rfl) | rfl) | rfl) | rfl) | rfl) | rfl)
        | rfl := delimiter <;> cases pause <;> rfl

theorem run_of_delimited {mode : Mode} {pending : List Token}
    {text : List Char} (pause : mode.pending? = some pending)
    (nonempty : text ≠ []) (delimited : Delimited text) :
    mode.run text = (pending ++ (gap.run text).1, (gap.run text).2) := by
  cases text with
  | nil => exact absurd rfl nonempty
  | cons c rest =>
      have delimiter : isDelimiter c := by simpa [Delimited] using delimited
      simp only [run_cons, step_of_delimiter pause delimiter, interrupt,
        List.append_assoc]
      rfl

end Mode

/-! ## Putting pieces together -/

namespace Completes

theorem nil : Completes [] [] := rfl

theorem append {first second : List Char} {tokens more : List Token}
    (complete : Completes first tokens) (next : Completes second more) :
    Completes (first ++ second) (tokens ++ more) := by
  unfold Completes at *
  rw [Mode.run_append, complete, next]

theorem reads {text : List Char} {tokens : List Token}
    (complete : Completes text tokens) : Reads text tokens :=
  ⟨tokens, .gap, [], complete, rfl, (List.append_nil tokens).symm⟩

theorem append_reads {first second : List Char} {tokens more : List Token}
    (complete : Completes first tokens) (next : Reads second more) :
    Reads (first ++ second) (tokens ++ more) := by
  obtain ⟨done, last, pending, run, pause, rfl⟩ := next
  refine ⟨tokens ++ done, last, pending, ?_, pause, by simp⟩
  unfold Completes at complete
  rw [Mode.run_append, complete, run]

end Completes

namespace Reads

theorem nil : Reads [] [] := Completes.nil.reads

theorem ofPause {text : List Char} {pending : List Token}
    (pause : (Mode.gap.run text).2.pending? = some pending) :
    Reads text ((Mode.gap.run text).1 ++ pending) :=
  ⟨_, _, pending, rfl, pause, rfl⟩

theorem append {first second : List Char} {tokens more : List Token}
    (read : Reads first tokens) (delimited : Delimited second)
    (next : Reads second more) :
    Reads (first ++ second) (tokens ++ more) := by
  obtain ⟨done, last, pending, run, pause, rfl⟩ := read
  cases second with
  | nil =>
      obtain ⟨_, _, _, empty, none, rfl⟩ := next
      cases empty
      cases none
      exact ⟨done, last, pending, by simpa using run, pause, by simp⟩
  | cons c rest =>
      obtain ⟨after, final, left, runAfter, finalPause, rfl⟩ := next
      refine ⟨done ++ (pending ++ after), final, left, ?_, finalPause,
        by simp⟩
      rw [Mode.run_append, run,
        Mode.run_of_delimited pause (List.cons_ne_nil c rest) delimited,
        runAfter]

theorem append_completes {first second : List Char}
    {tokens more : List Token} (read : Reads first tokens)
    (nonempty : second ≠ []) (delimited : Delimited second)
    (next : Completes second more) :
    Completes (first ++ second) (tokens ++ more) := by
  obtain ⟨done, last, pending, run, pause, rfl⟩ := read
  unfold Completes at *
  rw [Mode.run_append, run,
    Mode.run_of_delimited pause nonempty delimited, next]
  simp

theorem between_blanks {text : String} {tokens : List Token}
    (read : Reads text.toList tokens) :
    Completes (" " ++ text ++ " ").toList tokens := by
  have blank : Completes [' '] [] := rfl
  have delimited : Delimited [' '] := rfl
  have behind := read.append_completes (by simp) delimited blank
  simpa using blank.append behind

/-- A text that can be read on its own has exactly these tokens. -/
theorem scanChars_eq {text : List Char} {tokens : List Token}
    (read : Reads text tokens) : scanChars text = some tokens := by
  obtain ⟨done, last, pending, run, pause, rfl⟩ := read
  have finish : last.finish? = some pending := by
    cases last <;> first | exact pause | cases pause
  simp [scanChars, run, finish]

end Reads

/-! ## Single tokens -/

theorem run_quoted (quote : Quote) (content read : List Char) :
    (Mode.quoted quote read).run
        (doubleMarks quote.mark content ++ [quote.mark]) =
      ([], .quoteMark quote (read ++ content)) := by
  induction content generalizing read with
  | nil => simp [doubleMarks, Mode.run_cons, Mode.step]
  | cons c content induction =>
      by_cases mark : c = quote.mark
      · subst c
        simp [doubleMarks, Mode.run_cons, Mode.step, induction]
      · simp [doubleMarks, Mode.run_cons, Mode.step, mark, induction]

theorem step_quote (quote : Quote) :
    Mode.gap.step quote.mark = ([], .quoted quote []) := by
  cases quote <;> rfl

theorem run_gap_quoted (quote : Quote) (content : String) :
    Mode.gap.run (quoted quote.mark content).toList =
      ([], .quoteMark quote content.toList) := by
  simp [quoted, Mode.run_cons, step_quote, run_quoted]

theorem reads_quoted (quote : Quote) (content : String) :
    Reads (quoted quote.mark content).toList [quote.token content] :=
  ⟨[], .quoteMark quote content.toList, _, run_gap_quoted quote content, rfl,
    by simp⟩

theorem run_word (read rest : List Char)
    (further : ∀ c ∈ rest, beginsWord c || isAsciiDigit c || c == '.') :
    (Mode.word read).run rest = ([], .word (read ++ rest)) := by
  induction rest generalizing read with
  | nil => simp
  | cons c rest induction =>
      have continues : continuesWord read c := by
        simp [continuesWord, further c List.mem_cons_self]
      have tail := induction (read ++ [c]) fun d member =>
        further d (List.mem_cons_of_mem c member)
      simp [Mode.run_cons, Mode.step, continues, tail]

theorem start_letter {c : Char} (letter : beginsWord c) :
    start c = ([], .word [c]) := by
  have space : isSpace c = false := by
    cases space : isSpace c with
    | false => rfl
    | true =>
        simp only [isSpace, Bool.or_eq_true, beq_iff_eq] at space
        obtain ((((rfl | rfl) | rfl) | rfl) | rfl) | rfl := space <;>
          cases letter
  simp [start, space, letter]

theorem run_isWord {text : String} (word : isWord ['.'] text) :
    Mode.gap.run text.toList = ([], .word text.toList) := by
  unfold isWord at word
  cases characters : text.toList with
  | nil => simp [characters] at word
  | cons c rest =>
      simp only [characters, Bool.and_eq_true, List.all_eq_true] at word
      have begins : Mode.gap.step c = ([], .word [c]) :=
        start_letter (by simp [beginsWord, word.1])
      have further : ∀ d ∈ rest,
          beginsWord d || isAsciiDigit d || d == '.' := by
        intro d member
        have known := word.2 d member
        simp only [List.contains_cons, List.contains_nil, Bool.or_false,
          Bool.or_eq_true] at known
        simp only [beginsWord, Bool.or_eq_true]
        rcases known with (letter | digit) | point
        · exact .inl (.inl (.inl letter))
        · exact .inl (.inr digit)
        · exact .inr point
      rw [Mode.run_cons, begins, run_word [c] rest further]
      rfl

theorem mem_of_isAsciiDigit {c : Char} (digit : isAsciiDigit c) :
    c ∈ "0123456789".toList := by
  simp only [isAsciiDigit, Bool.and_eq_true, decide_eq_true_eq,
    Char.le_def, UInt32.le_iff_toNat_le] at digit
  have low : 48 ≤ c.toNat := digit.1
  have high : c.toNat < 58 := Nat.lt_succ_of_le digit.2
  have spelled : ∀ code < 58, 48 ≤ code →
      Char.ofNat code ∈ "0123456789".toList := by
    decide
  simpa using spelled c.toNat high low

theorem start_digit {c : Char} (digit : isAsciiDigit c) :
    start c = ([], .number [c]) := by
  have spelled : "0123456789".toList.all fun d =>
      start d = ([], .number [d]) := rfl
  have own := List.all_eq_true.mp spelled c (mem_of_isAsciiDigit digit)
  simpa using own

theorem run_number (read rest : List Char)
    (further : ∀ c ∈ rest, continuesNumber c) :
    (Mode.number read).run rest = ([], .number (read ++ rest)) := by
  induction rest generalizing read with
  | nil => simp
  | cons c rest induction =>
      have tail := induction (read ++ [c]) fun d member =>
        further d (List.mem_cons_of_mem c member)
      simp [Mode.run_cons, Mode.step, further c List.mem_cons_self, tail]

end SqlExpr.Lexis
