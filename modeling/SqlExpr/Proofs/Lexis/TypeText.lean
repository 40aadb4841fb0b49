import SqlExpr.Proofs.Lexis.Nesting
import SqlExpr.Proofs.Node.TypeName

/-!
# Scanning a type name

A type name is written as it was given, modifiers and brackets included, while
the check looks at the name without them.  The scanner is run next to the
reader of the check: `Fits` says where the two can stand at the same time.
They agree up to a dollar that follows a modifier directly, or with a number in
between.  The check takes it for a part of the name; the scanner does not.
-/

namespace SqlExpr.Lexis

open SqlExpr.Name SqlExpr.Text SqlExpr.TypeName

/-- The text ends with a modifier, or with a number directly behind one. -/
def EndsLoose (text : List Char) : Prop :=
  ∃ before number, text = before ++ ')' :: number ∧
    (∀ c ∈ number, continuesNumber c) ∧ ∀ c ∈ number.head?, isAsciiDigit c

/-- The text has a dollar behind a modifier that no name goes on with. -/
def HasLooseDollar (text : List Char) : Prop :=
  ∃ before after, text = before ++ '$' :: after ∧ EndsLoose before

/-- The brackets that are open where a reader of a type name stands. -/
def awaited : Place → List Char
  | .modifiers => [')']
  | .brackets => [']']
  | _ => []

/-- The places where the reader of a type name and the scanner can stand behind
the same text, with the last character of the name so far. -/
inductive Fits : Place → Char → List Char → Mode → Prop where
  | fresh {last : Char} {text : List Char} (outer : isInner last = false) :
      Fits .name last text .gap
  | closed {last : Char} {before : List Char} :
      Fits .name last (before ++ [')']) .gap
  | word {last : Char} {text read : List Char}
      (ends : read.getLast? = some last) : Fits .name last text (.word read)
  | number {last digit : Char} {before further : List Char}
      (isDigit : isAsciiDigit digit)
      (continues : ∀ c ∈ further, continuesNumber c) :
      Fits .name last (before ++ ')' :: digit :: further)
        (.number (digit :: further))
  | modifier {last : Char} {text : List Char} :
      Fits .modifiers last text .gap
  | modifierNumber {last : Char} {text read : List Char} :
      Fits .modifiers last text (.number read)
  | bracket {last : Char} {text : List Char} : Fits .brackets last text .gap
  | bracketNumber {last : Char} {text read : List Char} :
      Fits .brackets last text (.number read)
  | suffix {last : Char} {text : List Char} : Fits .suffix last text .gap

/-! ## Single characters -/

theorem isInner_of_isSpace {c : Char} (space : isSpace c) :
    isInner c = false := by
  simp only [isSpace, Bool.or_eq_true, beq_iff_eq] at space
  obtain ((((rfl | rfl) | rfl) | rfl) | rfl) | rfl := space <;> rfl

/-- The blanks that the scanner does not take for blanks belong to words. -/
theorem isSpace_or_beginsWord {c : Char} (blank : isBlank c) :
    isSpace c ∨ beginsWord c := by
  by_cases ascii : c.toNat < 128
  · have spelled : ∀ code < 128,
        isBlank (Char.ofNat code) → isSpace (Char.ofNat code) := by
      decide
    left
    simpa using spelled c.toNat ascii (by simpa using blank)
  · right
    simp only [beginsWord, Bool.or_eq_true, decide_eq_true_eq]
    exact .inr (Nat.le_of_not_lt ascii)

private theorem kinds_of_follows {last c : Char} (follows : Follows last c) :
    isSpace c ∨ (beginsWord c ∨ c = '.') ∨ isAsciiDigit c ∧ isInner last ∨
      c = '$' ∧ isInner last := by
  rcases follows with free | ⟨digit | rfl, inner⟩
  · simp only [isFree, Bool.or_eq_true, beq_iff_eq] at free
    rcases free with (letter | point) | blank
    · exact .inr (.inl (.inl (by simp [beginsWord, letter])))
    · exact .inr (.inl (.inr point))
    · rcases isSpace_or_beginsWord blank with space | letter
      · exact .inl space
      · exact .inr (.inl (.inl letter))
  · exact .inr (.inr (.inl ⟨digit, inner⟩))
  · exact .inr (.inr (.inr ⟨rfl, inner⟩))

private theorem step_space {mode : Mode} {pending : List Token} {c : Char}
    (pause : mode.pending? = some pending) (space : isSpace c) :
    mode.step c = (pending, .gap) := by
  have delimiter : isDelimiter c := by simp [isDelimiter, space]
  rw [Mode.step_of_delimiter pause delimiter]
  simp [interrupt, start, space]

namespace Fits

variable {place next : Place} {last c : Char} {text : List Char} {mode : Mode}

/-- Where the two fit, what is pending is plain. -/
theorem pending (fits : Fits place last text mode) :
    ∃ tokens, mode.pending? = some tokens ∧
      ∀ token ∈ tokens, token.isPlain := by
  cases fits <;> exact ⟨_, rfl, by
    simp [Token.isPlain, Token.awaits?, Token.isCloser, Token.isHazard]⟩

private theorem step_number {digit : Char} {before read : List Char}
    (isDigit : isAsciiDigit digit)
    (continues : ∀ d ∈ read, continuesNumber d) (more : continuesNumber c) :
    ∃ tokens after,
      (Mode.number (digit :: read)).step c = (tokens, after) ∧
      (∀ token ∈ tokens, token.isPlain) ∧
      Fits .name c (before ++ ')' :: digit :: read ++ [c]) after := by
  refine ⟨[], .number (digit :: (read ++ [c])), ?_, by simp, ?_⟩
  · simp [Mode.step, more]
  · rw [List.append_assoc]
    refine Fits.number isDigit (List.forall_mem_append.mpr ⟨continues, ?_⟩)
    simpa using more

private theorem step_word {read : List Char} (continues : continuesWord read c) :
    ∃ tokens after, (Mode.word read).step c = (tokens, after) ∧
      (∀ token ∈ tokens, token.isPlain) ∧
      Fits .name c (text ++ [c]) after := by
  refine ⟨[], .word (read ++ [c]), ?_, by simp, .word (by simp)⟩
  simp [Mode.step, continues]

private theorem step_further (fits : Fits .name last text mode)
    (further : beginsWord c ∨ c = '.') :
    ∃ tokens after, mode.step c = (tokens, after) ∧
      (∀ token ∈ tokens, token.isPlain) ∧
      Fits .name c (text ++ [c]) after := by
  cases fits with
  | fresh | closed =>
      rcases further with letter | rfl
      · exact ⟨[], .word [c], start_letter letter, by simp, .word rfl⟩
      · exact ⟨[.mark '.'], .gap, rfl, by decide, .fresh rfl⟩
  | word ends =>
      apply step_word
      rcases further with letter | rfl
      · simp [continuesWord, letter]
      · rfl
  | number isDigit continues =>
      apply step_number isDigit continues
      rcases further with letter | rfl
      · simp [continuesNumber, letter]
      · rfl

private theorem step_digit (fits : Fits .name last text mode)
    (digit : isAsciiDigit c) (inner : isInner last) :
    ∃ tokens after, mode.step c = (tokens, after) ∧
      (∀ token ∈ tokens, token.isPlain) ∧
      Fits .name c (text ++ [c]) after := by
  cases fits with
  | fresh outer =>
      rw [outer] at inner
      cases inner
  | closed =>
      refine ⟨[], .number [c], start_digit digit, by simp, ?_⟩
      rw [List.append_assoc]
      exact .number digit (by simp)
  | word ends =>
      apply step_word
      simp [continuesWord, digit]
  | number isDigit continues =>
      apply step_number isDigit continues
      simp [continuesNumber, digit]

private theorem step_dollar (fits : Fits .name last text mode)
    (inner : isInner last) :
    (∃ tokens after, mode.step '$' = (tokens, after) ∧
        (∀ token ∈ tokens, token.isPlain) ∧
        Fits .name '$' (text ++ ['$']) after) ∨
      EndsLoose text ∧ (mode.step '$').2 = .dollar [] := by
  cases fits with
  | fresh outer =>
      rw [outer] at inner
      cases inner
  | @closed _ before =>
      exact .inr ⟨⟨before, [], rfl, by simp, by simp⟩, rfl⟩
  | @word _ _ read ends =>
      have word : last ≠ '.' := by
        rintro rfl
        cases inner
      left
      apply step_word
      simp [continuesWord, ends, word]
  | @number _ first before read isDigit continues =>
      refine .inr ⟨⟨before, first :: read, rfl, ?_, ?_⟩, rfl⟩
      · rw [List.forall_mem_cons]
        exact ⟨by simp [continuesNumber, isDigit], continues⟩
      · simpa using isDigit

private theorem step_name (fits : Fits .name last text mode)
    (follows : Follows last c) :
    (∃ tokens after, mode.step c = (tokens, after) ∧
        (∀ token ∈ tokens, token.isPlain) ∧
        Fits .name c (text ++ [c]) after) ∨
      c = '$' ∧ EndsLoose text ∧ (mode.step c).2 = .dollar [] := by
  rcases kinds_of_follows follows with
    space | further | ⟨digit, inner⟩ | ⟨rfl, inner⟩
  · obtain ⟨pending, pause, plain⟩ := fits.pending
    exact .inl ⟨pending, .gap, step_space pause space, plain,
      .fresh (isInner_of_isSpace space)⟩
  · exact .inl (fits.step_further further)
  · exact .inl (fits.step_digit digit inner)
  · rcases fits.step_dollar inner with goes | loose
    · exact .inl goes
    · exact .inr ⟨rfl, loose⟩

private theorem step_open (fits : Fits .name last text mode) :
    (∃ tokens, mode.step '(' = (tokens, .gap) ∧ Nests [] [')'] tokens) ∧
      ∃ tokens, mode.step '[' = (tokens, .gap) ∧ Nests [] [']'] tokens := by
  cases fits with
  | fresh | closed =>
      exact ⟨⟨_, rfl, by decide, fun _ => rfl⟩,
        ⟨_, rfl, by decide, fun _ => rfl⟩⟩
  | @word _ _ read =>
      exact ⟨⟨[.word (String.ofList read), .call], rfl,
          by simp [Token.isHazard], fun _ => rfl⟩,
        ⟨[.word (String.ofList read), .mark '['], rfl,
          by simp [Token.isHazard], fun _ => rfl⟩⟩
  | @number _ digit _ read =>
      exact ⟨⟨[.number (String.ofList (digit :: read)), .mark '('], rfl,
          by simp [Token.isHazard], fun _ => rfl⟩,
        ⟨[.number (String.ofList (digit :: read)), .mark '['], rfl,
          by simp [Token.isHazard], fun _ => rfl⟩⟩

private theorem step_inside (fits : Fits place last text mode)
    (inside : place = .modifiers ∨ place = .brackets)
    (digit : isAsciiDigit c) :
    ∃ read, mode.step c = ([], .number read) := by
  have more (read : List Char) :
      (Mode.number read).step c = ([], .number (read ++ [c])) := by
    simp [Mode.step, continuesNumber, digit]
  cases fits with
  | modifier | bracket => exact ⟨[c], start_digit digit⟩
  | modifierNumber | bracketNumber => exact ⟨_, more _⟩
  | _ => rcases inside with other | other <;> cases other

private theorem step_delimiter (fits : Fits place last text mode)
    {tokens : List Token} (c : Char) (delimiter : isDelimiter c)
    (starts : start c = (tokens, .gap)) {before after : List Char}
    (nests : Nests before after tokens) :
    ∃ all, mode.step c = (all, .gap) ∧ Nests before after all := by
  obtain ⟨pending, pause, plain⟩ := fits.pending
  refine ⟨pending ++ tokens, ?_, ?_⟩
  · rw [Mode.step_of_delimiter pause delimiter, interrupt, starts]
  · exact ((Nests.ofPlain plain).frame before).append nests

private theorem step_bracket (fits : Fits place last text mode)
    (moves : place.step c = some next)
    (outside : ¬ (place = .name ∧ next = .name)) :
    ∃ tokens after, mode.step c = (tokens, after) ∧
      Nests (awaited place) (awaited next) tokens ∧
      Fits next last (text ++ [c]) after := by
  unfold Place.step at moves
  split at moves
  · cases moves
    obtain ⟨tokens, step, nests⟩ := fits.step_open.1
    exact ⟨tokens, .gap, step, nests, .modifier⟩
  · cases moves
    obtain ⟨tokens, step, nests⟩ := fits.step_open.2
    exact ⟨tokens, .gap, step, nests, .bracket⟩
  · cases moves
    exact absurd ⟨rfl, rfl⟩ outside
  · cases moves
    have closes : Nests [')'] [] [.mark ')'] := ⟨by decide, fun _ => rfl⟩
    obtain ⟨tokens, step, nests⟩ := fits.step_delimiter ')' rfl rfl closes
    exact ⟨tokens, .gap, step, nests, .closed⟩
  · split at moves
    · next kind =>
        cases moves
        simp only [Bool.or_eq_true, beq_iff_eq] at kind
        rcases kind with (digit | rfl) | rfl
        · obtain ⟨read, step⟩ := fits.step_inside (.inl rfl) digit
          exact ⟨[], .number read, step, Nests.nil.frame [')'],
            .modifierNumber⟩
        · have comma : Nests [')'] [')'] [.mark ','] :=
            ⟨by decide, fun _ => rfl⟩
          obtain ⟨tokens, step, nests⟩ := fits.step_delimiter ',' rfl rfl comma
          exact ⟨tokens, .gap, step, nests, .modifier⟩
        · have blank : Nests [')'] [')'] [] := Nests.nil.frame [')']
          obtain ⟨tokens, step, nests⟩ := fits.step_delimiter ' ' rfl rfl blank
          exact ⟨tokens, .gap, step, nests, .modifier⟩
    · cases moves
  · cases moves
    have closes : Nests [']'] [] [.mark ']'] := ⟨by decide, fun _ => rfl⟩
    obtain ⟨tokens, step, nests⟩ := fits.step_delimiter ']' rfl rfl closes
    exact ⟨tokens, .gap, step, nests, .suffix⟩
  · split at moves
    · next digit =>
        cases moves
        obtain ⟨read, step⟩ := fits.step_inside (.inr rfl) digit
        exact ⟨[], .number read, step, Nests.nil.frame [']'],
          .bracketNumber⟩
    · cases moves
  · cases moves
    cases fits
    exact ⟨_, .gap, rfl, ⟨by decide, fun _ => rfl⟩, .bracket⟩
  · cases moves

end Fits

/-- Behind some characters of a type the reader and the scanner still stand
together, or the scanner has met a loose dollar. -/
def Advances (place : Place) (text : List Char) (mode : Mode)
    (before rest : List Char) : Prop :=
  (∃ reached final more,
      bareName? reached rest = some more ∧
      Fits reached final (text ++ before) (mode.run before).2 ∧
      Nests (awaited place) (awaited reached) (mode.run before).1) ∨
    ∃ front back, before = front ++ '$' :: back ∧
      EndsLoose (text ++ front) ∧
      (mode.run (front ++ ['$'])).2 = .dollar []

private theorem Advances.cons {place next : Place} {c : Char}
    {text before rest : List Char} {mode after : Mode} {tokens : List Token}
    (step : mode.step c = (tokens, after))
    (nests : Nests (awaited place) (awaited next) tokens)
    (advances : Advances next (text ++ [c]) after before rest) :
    Advances place text mode (c :: before) rest := by
  rcases advances with
    ⟨reached, final, more, bare, fits, inner⟩ | ⟨front, back, rfl, loose, run⟩
  · refine .inl ⟨reached, final, more, bare, ?_, ?_⟩
    · rw [Mode.run_cons, step]
      simpa using fits
    · rw [Mode.run_cons, step]
      exact nests.append inner
  · refine .inr ⟨c :: front, back, rfl, by simpa using loose, ?_⟩
    rw [List.cons_append, Mode.run_cons, step]
    exact run

/-- Reader and scanner stand together along the whole text of a type, or the
scanner meets a loose dollar. -/
theorem Fits.advances {place : Place} {last : Char} {text : List Char}
    {mode : Mode} {before rest name : List Char}
    (fits : Fits place last text mode)
    (bare : bareName? place (before ++ rest) = some name)
    (chain : (last :: name).IsChain Follows) :
    Advances place text mode before rest := by
  induction before generalizing place last text mode name with
  | nil =>
      refine .inl ⟨place, last, name, bare, by simpa using fits, ?_⟩
      exact Nests.nil.frame (awaited place)
  | cons c before induction =>
      rw [List.cons_append] at bare
      unfold bareName? at bare
      cases moves : place.step c with
      | none => simp [moves] at bare
      | some next =>
          simp only [moves] at bare
          split at bare
          · next both =>
              obtain ⟨rfl, rfl⟩ := both
              obtain ⟨more, bareNext, rfl⟩ := Option.map_eq_some_iff.mp bare
              rcases fits.step_name (chain.rel_head? rfl) with
                ⟨tokens, after, step, plain, fitsNext⟩ | ⟨rfl, loose, step⟩
              · have nests : Nests (awaited .name) (awaited .name) tokens :=
                  .ofPlain plain
                exact (induction fitsNext bareNext chain.tail).cons step nests
              · refine .inr ⟨[], before, rfl, by simpa using loose, ?_⟩
                rw [List.nil_append, Mode.run_cons]
                exact step
          · next outside =>
              obtain ⟨tokens, after, step, nests, fitsNext⟩ :=
                fits.step_bracket moves outside
              exact (induction fitsNext bare chain).cons step nests

/-! ## Whole texts -/

section Types

variable {sqlType : String}

private theorem fits_start : Fits .name ' ' [] .gap := .fresh rfl

/-- A valid type without a loose dollar is read as balanced tokens. -/
theorem reads_type (valid : isValid sqlType)
    (tight : ¬ HasLooseDollar (trim sqlType).toList) :
    ∃ tokens, Reads (trim sqlType).toList tokens ∧ Nests [] [] tokens := by
  unfold isValid at valid
  split at valid
  · next name bare =>
      have whole : bareName? .name ((trim sqlType).toList ++ []) = some name := by
        rw [List.append_nil]
        exact bare
      rcases fits_start.advances whole (isChain_of_isName valid) with
        ⟨reached, final, more, rest, fits, nests⟩ |
          ⟨front, back, equal, loose, _⟩
      · have closed : awaited reached = [] := by
          cases reached <;> first | rfl | cases rest
        obtain ⟨pending, pause, plain⟩ := fits.pending
        rw [closed] at nests
        exact ⟨_, .ofPause pause, nests.append (.ofPlain plain)⟩
      · exact absurd ⟨front, back, equal, loose⟩ tight
  · cases valid

/-- The scanner takes a loose dollar in a valid type for what it is. -/
theorem run_type_of_looseDollar (valid : isValid sqlType)
    (loose : HasLooseDollar (trim sqlType).toList) :
    ∃ front back, (trim sqlType).toList = front ++ '$' :: back ∧
      (Mode.gap.run (front ++ ['$'])).2 = .dollar [] := by
  obtain ⟨_, after, equal, before, number, rfl, continues, digit⟩ := loose
  unfold isValid at valid
  split at valid
  · next name bare =>
      rw [equal, List.append_assoc] at bare
      rcases fits_start.advances bare (isChain_of_isName valid) with
        ⟨reached, final, more, _, fits, _⟩ | ⟨front, back, rfl, _, run⟩
      · refine ⟨before ++ ')' :: number, after, equal, ?_⟩
        obtain ⟨pending, pause, _⟩ := fits.pending
        have close : ((Mode.gap.run before).2.step ')').2 = .gap := by
          rw [Mode.step_of_delimiter pause rfl]
          rfl
        rw [List.append_assoc, Mode.run_append, List.cons_append,
          Mode.run_cons, close]
        cases number with
        | nil => rfl
        | cons first read =>
            have begins : Mode.gap.step first = ([], .number [first]) :=
              start_digit (digit first rfl)
            rw [List.cons_append, Mode.run_cons, begins, Mode.run_append,
              run_number [first] read fun c member =>
                continues c (List.mem_cons_of_mem first member)]
            rfl
      · exact ⟨front, _, by rw [equal, List.append_assoc,
          List.append_assoc]; rfl, run⟩
  · cases valid

end Types

/-! ## Behind a dollar -/

/-- The scanner is behind a dollar that no name goes on with. -/
def Mode.inDollar : Mode → Bool
  | dollar _ | dollarText _ _ => true
  | _ => false

private theorem Mode.step_inDollar {mode : Mode} (inside : mode.inDollar)
    (c : Char) :
    (∃ token ∈ (mode.step c).1, token.isHazard) ∨
      (mode.step c).2.inDollar := by
  cases mode with
  | dollar tag =>
      simp only [Mode.step]
      split
      · exact .inr rfl
      · split
        · exact .inr rfl
        · exact .inl ⟨_, List.mem_cons_self, rfl⟩
  | dollarText tag read =>
      simp only [Mode.step]
      split
      · exact .inl ⟨_, List.mem_cons_self, rfl⟩
      · exact .inr rfl
  | _ => cases inside

/-- Such a dollar is left only by way of its token. -/
theorem Mode.run_inDollar {mode : Mode} (inside : mode.inDollar)
    (rest : List Char) :
    (∃ token ∈ (mode.run rest).1, token.isHazard) ∨
      (mode.run rest).2.inDollar := by
  induction rest generalizing mode with
  | nil => exact .inr inside
  | cons c rest induction =>
      rw [Mode.run_cons]
      rcases mode.step_inDollar inside c with ⟨token, member, hazard⟩ | inside
      · exact .inl ⟨token, List.mem_append_left _ member, hazard⟩
      · rcases induction inside with ⟨token, member, hazard⟩ | inside
        · exact .inl ⟨token, List.mem_append_right _ member, hazard⟩
        · exact .inr inside

/-- A text with a loose dollar in it is not closed. -/
theorem not_isClosed_of_dollar {text : String} {front back : List Char}
    (equal : text.toList = front ++ back)
    (inside : (Mode.gap.run front).2.inDollar) : ¬ IsClosed text := by
  rintro ⟨tokens, scanned, _, safe⟩
  rw [scan, scanChars, equal, Mode.run_append] at scanned
  obtain ⟨pending, finish, rfl⟩ := Option.map_eq_some_iff.mp scanned
  rcases (Mode.gap.run front).2.run_inDollar inside back with
    ⟨token, member, hazard⟩ | inside
  · have free := safe token (by simp [member])
    rw [hazard] at free
    cases free
  · cases last : ((Mode.gap.run front).2.run back).2 with
    | dollar tag =>
        rw [last] at finish
        cases finish
        have free := safe (.dollar (String.ofList tag)) (by simp)
        cases free
    | dollarText tag read =>
        rw [last] at finish
        cases finish
    | _ =>
        rw [last] at inside
        cases inside

end SqlExpr.Lexis
