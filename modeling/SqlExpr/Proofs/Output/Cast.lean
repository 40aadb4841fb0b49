import SqlExpr.Proofs.Node.TypeGrammar
import SqlExpr.Proofs.Output.Atom

/-!
# Numbers with a cast

A literal with a cast is written as its value with the cast right behind it.
SQL applies a cast before a minus, so behind a number with a minus it is a cast
of the number without it, and the minus is applied to what comes out.
-/

namespace SqlExpr

open SqlExpr.Lexis SqlExpr.Name SqlExpr.Text SqlExpr.TypeName

/-- What a number with minuses and casts is read as. -/
inductive CastTerm where
  | number (digits : List Char)
  | negated (operand : CastTerm)
  | cast (operand : CastTerm) (sqlType : List Char)
  deriving DecidableEq, Repr

namespace CastTerm

/-- A cast is applied to tight terms only, a minus to all of them. -/
inductive Level where
  | tight
  | loose

/-- The texts of terms.  Two minuses without a blank between them begin a
comment. -/
inductive Spells : Level → List Char → CastTerm → Prop where
  | number {digits : List Char} :
      IsNumeral digits → Spells .tight digits (.number digits)
  | grouped {text : List Char} {term : CastTerm} :
      Spells .loose text term → Spells .tight ('(' :: text ++ [')']) term
  | cast {text sqlType : List Char} {operand : CastTerm} :
      Spells .tight text operand → IsLooseText sqlType →
      Spells .tight (text ++ ':' :: ':' :: sqlType) (.cast operand sqlType)
  | tight {text : List Char} {term : CastTerm} :
      Spells .tight text term → Spells .loose text term
  | negated {text : List Char} {operand : CastTerm} :
      Spells .loose text operand → text.head? ≠ some '-' →
      Spells .loose ('-' :: text) (.negated operand)
  | spaced {level : Level} {before text after : List Char} {term : CastTerm} :
      (∀ c ∈ before, isSpace c) → (∀ c ∈ after, isSpace c) →
      Spells level text term → Spells level (before ++ text ++ after) term

/-- A text is read as a term, and as no other one. -/
def IsReadAs (text : List Char) (term : CastTerm) : Prop :=
  ∀ other, Spells .loose text other ↔ other = term

/-- A term behind a minus, if there is one. -/
def signed : Bool → CastTerm → CastTerm
  | true, term => .negated term
  | false, term => term

section

variable {level : Level} {text digits sqlType : List Char}
  {term other : CastTerm}

theorem IsReadAs.unique (first : IsReadAs text term)
    (second : IsReadAs text other) : term = other :=
  (second term).mp ((first term).mpr rfl)

/-! ## Texts without blanks around them -/

/-- No blank begins or ends a text. -/
structure IsTrimmed (text : List Char) : Prop where
  first : ∀ c ∈ text.head?, isSpace c = false
  last : ∀ c ∈ text.getLast?, isSpace c = false

theorem IsTrimmed.eq_of_spaced {before after : List Char}
    (trimmed : IsTrimmed (before ++ text ++ after))
    (leading : ∀ c ∈ before, isSpace c) (trailing : ∀ c ∈ after, isSpace c) :
    before = [] ∧ after = [] := by
  constructor
  · cases before with
    | nil => rfl
    | cons c before =>
        have visible := trimmed.first c rfl
        rw [leading c List.mem_cons_self] at visible
        cases visible
  · rcases List.eq_nil_or_concat after with none | ⟨after, c, rfl⟩
    · exact none
    · have visible := trimmed.last c (by simp)
      rw [trailing c (by simp)] at visible
      cases visible

/-- The ways to read a text that no blank begins or ends. -/
theorem Spells.cases_of_trimmed (spells : Spells level text term)
    (trimmed : IsTrimmed text) :
    (IsNumeral text ∧ term = .number text) ∨
      (∃ inner, text = '(' :: inner) ∨
      (∃ front sqlType operand, text = front ++ ':' :: ':' :: sqlType ∧
        term = .cast operand sqlType ∧ Spells .tight front operand ∧
        IsLooseText sqlType) ∨
      ∃ rest operand, text = '-' :: rest ∧ term = .negated operand ∧
        level = .loose ∧ Spells .loose rest operand := by
  induction spells with
  | number numeral => exact .inl ⟨numeral, rfl⟩
  | grouped => exact .inr (.inl ⟨_, rfl⟩)
  | cast operand loose _ =>
      exact .inr (.inr (.inl ⟨_, _, _, rfl, rfl, operand, loose⟩))
  | tight _ induction =>
      rcases induction trimmed with
        number | grouped | cast | ⟨_, _, _, _, own, _⟩
      · exact .inl number
      · exact .inr (.inl grouped)
      · exact .inr (.inr (.inl cast))
      · cases own
  | negated operand =>
      exact .inr (.inr (.inr ⟨_, _, rfl, rfl, rfl, operand⟩))
  | spaced leading trailing _ induction =>
      obtain ⟨rfl, rfl⟩ := trimmed.eq_of_spaced leading trailing
      rw [List.nil_append, List.append_nil] at trimmed ⊢
      exact induction trimmed

private theorem head?_blanks_ne {blanks : List Char}
    (spaces : ∀ c ∈ blanks, isSpace c) (further : text.head? ≠ some '-') :
    (blanks ++ text).head? ≠ some '-' := by
  cases blanks with
  | nil => exact further
  | cons c blanks =>
      rintro ⟨⟩
      cases spaces '-' List.mem_cons_self

/-- A tight term does not begin with a minus. -/
theorem Spells.head?_ne (spells : Spells .tight text term) :
    text.head? ≠ some '-' := by
  generalize tight : Level.tight = level at spells
  induction spells with
  | number numeral =>
      obtain ⟨c, rest, rfl, digit, -⟩ := numeral
      rintro ⟨⟩
      cases digit
  | grouped => nofun
  | @cast text _ _ _ _ induction =>
      cases text with
      | nil => nofun
      | cons => exact induction tight
  | tight | negated => cases tight
  | @spaced _ before text after _ leading trailing _ induction =>
      rw [List.append_assoc]
      apply head?_blanks_ne leading
      cases text with
      | nil =>
          rw [List.nil_append, ← List.append_nil after]
          exact head?_blanks_ne trailing nofun
      | cons => exact induction tight

/-! ## How numbers and their casts are read -/

private theorem eq_nil_of_colons {middle back : List Char}
    (free : ':' ∉ sqlType)
    (same : ':' :: ':' :: sqlType = middle ++ ':' :: ':' :: back) :
    middle = [] := by
  rcases middle with _ | ⟨c, _ | ⟨d, middle⟩⟩
  · rfl
  · injection same with _ same
    injection same with _ same
    simp [same] at free
  · injection same with _ same
    injection same with _ same
    simp [same] at free

/-- A cast is cut at its last colons. -/
private theorem eq_of_colons {front back : List Char} (free : ':' ∉ sqlType)
    (other : ':' ∉ back)
    (same : text ++ ':' :: ':' :: sqlType = front ++ ':' :: ':' :: back) :
    text = front ∧ sqlType = back := by
  have none : text = front := by
    rcases List.append_eq_append_iff.mp same with
      ⟨middle, rfl, further⟩ | ⟨middle, rfl, further⟩
    · rw [eq_nil_of_colons free further, List.append_nil]
    · rw [eq_nil_of_colons other further, List.append_nil]
  subst none
  simpa using same

private theorem isSpace_eq_false {c : Char} (visible : isBlank c = false) :
    isSpace c = false := by
  cases space : isSpace c with
  | false => rfl
  | true =>
      rw [isBlank_of_isSpace space] at visible
      cases visible

/-- A text begins with a digit, and no blank ends it. -/
structure IsUnsigned (text : List Char) : Prop where
  first : ∃ c rest, text = c :: rest ∧ isAsciiDigit c
  last : ∀ c ∈ text.getLast?, isSpace c = false

theorem IsUnsigned.isTrimmed (unsigned : IsUnsigned text) :
    IsTrimmed text := by
  obtain ⟨⟨c, rest, rfl, digit⟩, last⟩ := unsigned
  refine ⟨?_, last⟩
  rintro _ ⟨⟩
  exact isSpace_eq_false (isBlank_of_isAsciiDigit digit)

theorem IsUnsigned.cases (unsigned : IsUnsigned text)
    (spells : Spells level text term) :
    (IsNumeral text ∧ term = .number text) ∨
      ∃ front sqlType operand, text = front ++ ':' :: ':' :: sqlType ∧
        term = .cast operand sqlType ∧ Spells .tight front operand ∧
        IsLooseText sqlType := by
  obtain ⟨c, rest, begins, digit⟩ := unsigned.first
  rcases spells.cases_of_trimmed unsigned.isTrimmed with
    number | ⟨inner, grouped⟩ | cast | ⟨further, operand, negated, -⟩
  · exact .inl number
  · obtain ⟨rfl, -⟩ := List.cons.inj (begins.symm.trans grouped)
    cases digit
  · exact .inr cast
  · obtain ⟨rfl, -⟩ := List.cons.inj (begins.symm.trans negated)
    cases digit

theorem isUnsigned_numeral (numeral : IsNumeral digits) :
    IsUnsigned digits := by
  refine ⟨?_, fun c member => ?_⟩
  · obtain ⟨c, rest, begins, digit, -⟩ := numeral
    exact ⟨c, rest, begins, digit⟩
  · rcases numeral.digit_or_point c (List.mem_of_getLast? member) with
      digit | rfl
    · exact isSpace_eq_false (isBlank_of_isAsciiDigit digit)
    · rfl

theorem isUnsigned_cast (numeral : IsNumeral digits)
    (last : ∀ c ∈ sqlType.getLast?, isSpace c = false) :
    IsUnsigned (digits ++ ':' :: ':' :: sqlType) := by
  constructor
  · obtain ⟨c, rest, rfl, digit, -⟩ := numeral
    exact ⟨c, rest ++ ':' :: ':' :: sqlType, rfl, digit⟩
  · cases sqlType with
    | nil =>
        intro c member
        simp at member
        rw [← member]
        rfl
    | cons c sqlType => simpa [List.getLast?_append] using last

private theorem colon_not_mem (numeral : IsNumeral digits) :
    ':' ∉ digits := by
  intro member
  rcases numeral.digit_or_point ':' member with digit | point
  · cases digit
  · cases point

/-- A numeral is a number and nothing else. -/
theorem isReadAs_number (numeral : IsNumeral digits) :
    IsReadAs digits (.number digits) := by
  intro other
  constructor
  · intro spells
    rcases (isUnsigned_numeral numeral).cases spells with
      ⟨-, number⟩ | ⟨front, sqlType, _, cut, -⟩
    · exact number
    · have colon := colon_not_mem numeral
      simp [cut] at colon
  · rintro rfl
    exact .tight (.number numeral)

/-- A numeral with a cast behind it is the cast of the number. -/
theorem isReadAs_cast (numeral : IsNumeral digits)
    (loose : IsLooseText sqlType)
    (last : ∀ c ∈ sqlType.getLast?, isSpace c = false) :
    IsReadAs (digits ++ ':' :: ':' :: sqlType)
      (.cast (.number digits) sqlType) := by
  intro other
  constructor
  · intro spells
    rcases (isUnsigned_cast numeral last).cases spells with
      ⟨number, -⟩ | ⟨front, back, operand, cut, rfl, tight, otherLoose⟩
    · have colon := colon_not_mem number
      simp at colon
    · obtain ⟨rfl, rfl⟩ := eq_of_colons (loose.not_mem rfl rfl)
        (otherLoose.not_mem rfl rfl) cut
      rw [(isReadAs_number numeral operand).mp (.tight tight)]
  · rintro rfl
    exact .tight (.cast (.number numeral) loose)

/-- A minus in front of a text is applied to all that the text is read as. -/
theorem isReadAs_signed (unsigned : IsUnsigned text)
    (plain : IsReadAs text term) (minus : Bool) :
    IsReadAs ((if minus then ['-'] else []) ++ text) (signed minus term) := by
  cases minus with
  | false => exact plain
  | true =>
      obtain ⟨c, rest, rfl, digit⟩ := unsigned.first
      have trimmed : IsTrimmed ('-' :: c :: rest) := by
        constructor
        · rintro _ ⟨⟩
          rfl
        · exact unsigned.last
      intro other
      constructor
      · intro spells
        rcases spells.cases_of_trimmed trimmed with
          ⟨number, -⟩ | ⟨inner, grouped⟩ |
            ⟨front, sqlType, operand, cut, -, tight, -⟩ |
            ⟨rest, operand, cut, rfl, -, loose⟩
        · obtain ⟨c, rest, begins, digit, -⟩ := number
          obtain ⟨rfl, -⟩ := List.cons.inj begins
          cases digit
        · cases grouped
        · have first := tight.head?_ne
          cases front with
          | nil => cases cut
          | cons c front =>
              obtain ⟨rfl, -⟩ := List.cons.inj cut
              exact absurd rfl first
        · obtain ⟨-, rfl⟩ := List.cons.inj cut
          rw [(plain operand).mp loose]
          rfl
      · rintro rfl
        refine .negated ((plain term).mpr rfl) ?_
        rintro ⟨⟩
        cases digit

end

end CastTerm

/-! ## Literals with a cast -/

open CastTerm

variable {value : Value} {sqlType : String} {minus : Bool}

private theorem last_trim (text : String) :
    ∀ c ∈ (trim text).toList.getLast?, isBlank c = false := by
  intro c last
  rw [trim, String.toList_ofList, trimRight] at last
  exact getLast?_dropWhile last

/-- A literal with a cast is made, and read as the cast of what its value is
read as. -/
def Config.CastsWhole (config : Config) (value : Value) (sqlType : String) :
    Prop :=
  ∃ node text literal whole, Node.typed? value sqlType = .ok node ∧
    config.render node = .ok text ∧
    value.literal config.booleanStyle = .ok literal ∧
    IsReadAs literal.toList whole ∧
    IsReadAs text.toList (.cast whole (trim sqlType).toList)

/-- A literal with a cast is made, and read as the negation of a cast: its
value is a number with a minus, and the cast is that of the number without
it. -/
def Config.NegatesCast (config : Config) (value : Value) (sqlType : String) :
    Prop :=
  ∃ node text literal digits, Node.typed? value sqlType = .ok node ∧
    config.render node = .ok text ∧
    value.literal config.booleanStyle = .ok literal ∧
    IsReadAs literal.toList (.negated (.number digits)) ∧
    IsReadAs text.toList
      (.negated (.cast (.number digits) (trim sqlType).toList))

/-- The cast of a number is made and written, and a minus of the number is left
in front of the cast. -/
theorem Config.typed_reading (config : Config)
    (number : value.minus? = some minus)
    (accepted : TypeName.check sqlType = .ok ()) :
    ∃ node text literal digits, Node.typed? value sqlType = .ok node ∧
      config.render node = .ok text ∧
      value.literal config.booleanStyle = .ok literal ∧
      IsReadAs literal.toList (signed minus (.number digits)) ∧
      IsReadAs text.toList
        (signed minus (.cast (.number digits) (trim sqlType).toList)) := by
  obtain ⟨numeral, isNumeral, written⟩ := Value.literal_of_minus? number
  have loose : IsLooseText (trim sqlType).toList :=
    (check_eq_ok_iff sqlType).mp accepted
  have last : ∀ c ∈ (trim sqlType).toList.getLast?, isSpace c = false :=
    fun c member => isSpace_eq_false (last_trim sqlType c member)
  have sign : (if minus then "-" else "").toList =
      if minus then ['-'] else [] := by
    cases minus <;> rfl
  refine ⟨.literal value (some sqlType),
    (if minus then "-" else "") ++ numeral ++ ("::" ++ trim sqlType),
    _, numeral.toList, ?_, ?_, written _, ?_, ?_⟩
  · rw [Node.typed?, accepted]
    rfl
  · have literal : config.renderLiteral value (some sqlType) =
        .write ((if minus then "-" else "") ++ numeral ++
          ("::" ++ trim sqlType)) := by
      rw [renderLiteral, ← Value.ofResult_literal, written]
      simp [accepted, Rendering.ofResult, Rendering.ofCheck]
    rw [render, rendering, renderAt, literal]
    rfl
  · rw [String.toList_append, sign]
    exact isReadAs_signed (isUnsigned_numeral isNumeral)
      (isReadAs_number isNumeral) minus
  · have whole := isReadAs_signed (isUnsigned_cast isNumeral last)
      (isReadAs_cast isNumeral loose last) minus
    simpa [sign] using whole

/-- A number with a cast is read as the cast of the whole number exactly if it
is written without a minus; otherwise the minus is applied to the cast of the
rest. -/
theorem Config.castsWhole_iff (config : Config)
    (number : value.minus? = some minus)
    (accepted : TypeName.check sqlType = .ok ()) :
    (config.CastsWhole value sqlType ↔ minus = false) ∧
      (config.NegatesCast value sqlType ↔ minus = true) := by
  obtain ⟨node, text, literal, digits, made, rendered, written, own, read⟩ :=
    config.typed_reading number accepted
  cases minus with
  | false =>
      refine ⟨iff_of_true ?_ rfl, iff_of_false ?_ nofun⟩
      · exact ⟨node, text, literal, _, made, rendered, written, own, read⟩
      · rintro ⟨_, other, _, _, sameNode, sameText, -, -, negates⟩
        cases made.symm.trans sameNode
        cases rendered.symm.trans sameText
        cases read.unique negates
  | true =>
      refine ⟨iff_of_false ?_ nofun, iff_of_true ?_ rfl⟩
      · rintro ⟨_, other, _, _, sameNode, sameText, -, -, casts⟩
        cases made.symm.trans sameNode
        cases rendered.symm.trans sameText
        cases read.unique casts
      · exact ⟨node, text, literal, _, made, rendered, written, own, read⟩

/-- The smallest integer of two bytes is cast without its minus, to a type that
does not have the rest; in parentheses it would be cast as a whole. -/
theorem Config.castsWhole_iff_smallest :
    let smallest : Value := .int (-32768)
    smallest.minus? = some true ∧ TypeName.check "int2" = .ok () ∧
      postgres.render (.literal smallest (some "int2")) =
        .ok "-32768::int2" ∧
      ¬ postgres.CastsWhole smallest "int2" ∧
      postgres.NegatesCast smallest "int2" ∧
      Spells .loose "(-32768)::int2".toList
        (.cast (.negated (.number "32768".toList)) "int2".toList) := by
  intro smallest
  have number : smallest.minus? = some true := rfl
  have accepted : TypeName.check "int2" = .ok () := rfl
  obtain ⟨whole, negates⟩ := castsWhole_iff postgres number accepted
  refine ⟨number, accepted, rfl, ?_, negates.mpr rfl, ?_⟩
  · rw [whole]
    nofun
  · have loose : IsLooseText "int2".toList :=
      (check_eq_ok_iff "int2").mp accepted
    have numeral : IsNumeral "32768".toList := isNumeral_digits 32768
    exact .tight (.cast (.grouped (.negated (.tight (.number numeral))
      (by decide))) loose)

end SqlExpr
