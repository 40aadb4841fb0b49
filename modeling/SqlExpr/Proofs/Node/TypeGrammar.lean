import SqlExpr.Proofs.Lexis.Reading
import SqlExpr.Proofs.Name.Quoting
import SqlExpr.Proofs.Node.TypeName
import SqlExpr.Proofs.Node.Words

/-!
# The grammar of type names

`IsTypeText` is the grammar of type names: a name of one or several words,
numeric modifiers behind one of its words, array brackets at the end.  The check
takes modifiers out of a text before it looks at the name, and cuts the name at
every kind of blank, so it cannot see where a modifier stood and which blanks
there are.  What it accepts is `IsLooseText`, and the grammar is the part of it
in which modifiers are in place and all the blanks are those of SQL.
-/

namespace SqlExpr.TypeName

open SqlExpr.Lexis SqlExpr.Name SqlExpr.Text

/-- The words of a type name: a qualified name, or one of the names of several
words, with letters of either case. -/
inductive NamesType : List String → Prop where
  | qualified {parts : List String} :
      parts ≠ [] → (∀ part ∈ parts, isPlain part) →
      NamesType [joinWith "." parts]
  | listed {first second : String} {rest : List String} :
      asciiLower (joinWith " " (first :: second :: rest)) ∈ multiWordNames →
      NamesType (first :: second :: rest)

/-- The characters between the parentheses of modifiers. -/
def inModifiers (c : Char) : Bool := isAsciiDigit c || c == ',' || c == ' '

/-- The characters of array brackets. -/
def inBrackets (c : Char) : Bool := isAsciiDigit c || c == '[' || c == ']'

/-- Array brackets, with or without a length. -/
inductive IsSuffix : List Char → Prop where
  | nil : IsSuffix []
  | cons {length rest : List Char} :
      (∀ c ∈ length, isAsciiDigit c) → IsSuffix rest →
      IsSuffix ('[' :: length ++ ']' :: rest)

/-- A word ends between two halves of a text: blanks may follow it, but no
further character of a name. -/
def EndsWord (front back : List Char) : Prop :=
  (∃ c ∈ front, isBlank c = false) ∧
    ((∃ c ∈ front.getLast?, isBlank c) ∨
      ∀ c ∈ back.head?, isBlank c ∨ c = '[')

/-- The grammar of type names.  Blanks may stand around modifiers, and before
array brackets. -/
inductive IsTypeText : List Char → Prop where
  | plain {names : List String} {name suffix : List Char} :
      NamesType names → Spaced isSpace names name → IsSuffix suffix →
      IsTypeText (name ++ suffix)
  | modified {names : List String} {front inner back suffix : List Char} :
      NamesType names → Spaced isSpace names (front ++ back) →
      EndsWord front back → (∀ c ∈ inner, inModifiers c) → IsSuffix suffix →
      IsTypeText (front ++ '(' :: inner ++ ')' :: (back ++ suffix))

/-- The name that is left of a text without its modifiers, wherever they stand,
and without the brackets at its end. -/
inductive Strips : List Char → List Char → Prop where
  | suffix {text : List Char} : IsSuffix text → Strips text []
  | own {c : Char} {text name : List Char} :
      c ≠ '(' → c ≠ '[' → Strips text name → Strips (c :: text) (c :: name)
  | modifier {inner text name : List Char} :
      (∀ c ∈ inner, inModifiers c) → Strips text name →
      Strips ('(' :: inner ++ ')' :: text) name

/-- The texts of which the name of a type is left, with blanks of any kind. -/
def IsLooseText (text : List Char) : Prop :=
  ∃ name names, Strips text name ∧ Spaced isBlank names name ∧
    NamesType names

/-- Modifiers stand at most once, behind a whole word. -/
def ModifiersInPlace (text : List Char) : Prop :=
  ∀ front inner back, text = front ++ '(' :: inner ++ ')' :: back →
    (∀ c ∈ inner, inModifiers c) →
      '(' ∉ front ++ back ∧ EndsWord front back

/-- SQL takes every blank of the text for a blank. -/
def PlainBlanks (text : List Char) : Prop :=
  ∀ c ∈ text, isBlank c → isSpace c

/-! ## Names -/

private theorem isSome_qualifiedParts?_iff {word : String} :
    (qualifiedParts? word).isSome ↔ NamesType [word] := by
  rw [Option.isSome_iff_exists, ← isQualified_iff]
  constructor
  · rintro ⟨parts, nonempty, plain, rfl⟩
    exact .qualified nonempty plain
  · intro known
    cases known with
    | @qualified parts nonempty plain => exact ⟨parts, nonempty, plain, rfl⟩

private theorem isName_iff_words {name : List Char} :
    isName name ↔ NamesType (words name) := by
  unfold isName
  split
  · next none =>
      rw [none]
      constructor
      · intro accepted
        cases accepted
      · intro known
        cases known
  · next word single =>
      rw [single]
      exact isSome_qualifiedParts?_iff
  · next several single =>
      cases equal : words name with
      | nil => exact absurd equal several
      | cons first rest =>
          cases rest with
          | nil => exact absurd equal (single first)
          | cons second rest =>
              rw [List.contains_iff_mem]
              constructor
              · exact .listed
              · intro known
                cases known
                assumption

/-- The names that the check accepts. -/
theorem isName_iff {name : List Char} :
    isName name ↔ ∃ names, Spaced isBlank names name ∧ NamesType names := by
  rw [isName_iff_words]
  constructor
  · intro known
    exact ⟨words name, spaced_words name, known⟩
  · intro accepted
    obtain ⟨names, spaced, known⟩ := accepted
    rwa [spaced_iff_words_eq.mp spaced]

/-! ## The reader of a type name -/

section Reader

variable {inner length rest text name : List Char}

theorem bareName?_name (c : Char) (rest : List Char) :
    bareName? .name (c :: rest) =
      if c = '(' then bareName? .modifiers rest
      else if c = '[' then bareName? .brackets rest
      else (bareName? .name rest).map (c :: ·) := by
  split_ifs with opening bracket
  · rw [opening]
    rfl
  · rw [bracket]
    rfl
  · simp [bareName?, Place.step]

theorem bareName?_modifiers (c : Char) (rest : List Char) :
    bareName? .modifiers (c :: rest) =
      if c = ')' then bareName? .name rest
      else if inModifiers c then bareName? .modifiers rest
      else none := by
  split_ifs with closing known
  · rw [closing]
    rfl
  · rw [inModifiers] at known
    simp [bareName?, Place.step, known]
  · rw [inModifiers] at known
    simp [bareName?, Place.step, known]

theorem bareName?_brackets (c : Char) (rest : List Char) :
    bareName? .brackets (c :: rest) =
      if c = ']' then bareName? .suffix rest
      else if isAsciiDigit c then bareName? .brackets rest
      else none := by
  split_ifs with closing digit
  · rw [closing]
    rfl
  · simp [bareName?, Place.step, digit]
  · simp [bareName?, Place.step, digit]

theorem bareName?_suffix (c : Char) (rest : List Char) :
    bareName? .suffix (c :: rest) =
      if c = '[' then bareName? .brackets rest else none := by
  split_ifs with bracket
  · rw [bracket]
    rfl
  · simp [bareName?, Place.step]

theorem bareName?_closing (inside : ∀ c ∈ inner, inModifiers c) :
    bareName? .modifiers (inner ++ ')' :: rest) = bareName? .name rest := by
  induction inner with
  | nil => exact bareName?_modifiers ')' rest
  | cons c inner induction =>
      rw [List.forall_mem_cons] at inside
      have further : c ≠ ')' := by
        rintro rfl
        cases inside.1
      rw [List.cons_append, bareName?_modifiers, if_neg further,
        if_pos inside.1]
      exact induction inside.2

theorem bareName?_closingBracket (digits : ∀ c ∈ length, isAsciiDigit c) :
    bareName? .brackets (length ++ ']' :: rest) = bareName? .suffix rest := by
  induction length with
  | nil => exact bareName?_brackets ']' rest
  | cons c length induction =>
      rw [List.forall_mem_cons] at digits
      have further : c ≠ ']' := by
        rintro rfl
        cases digits.1
      rw [List.cons_append, bareName?_brackets, if_neg further,
        if_pos digits.1]
      exact induction digits.2

theorem bareName?_of_isSuffix (suffix : IsSuffix text) :
    bareName? .suffix text = some [] := by
  induction suffix with
  | nil => rfl
  | cons digits _ induction =>
      rw [List.cons_append, bareName?_suffix, if_pos rfl,
        bareName?_closingBracket digits]
      exact induction

theorem bareName?_of_strips (strips : Strips text name) :
    bareName? .name text = some name := by
  induction strips with
  | @suffix text suffix =>
      cases suffix with
      | nil => rfl
      | cons digits suffix =>
          have read := bareName?_of_isSuffix (.cons digits suffix)
          rwa [List.cons_append, bareName?_suffix, if_pos rfl] at read
  | own parenthesis bracket _ induction =>
      rw [bareName?_name, if_neg parenthesis, if_neg bracket, induction]
      rfl
  | modifier inside _ induction =>
      rw [List.cons_append, bareName?_name, if_pos rfl,
        bareName?_closing inside]
      exact induction

/-- What the reader of a type name finds from each of its places on. -/
def Ahead : Place → List Char → List Char → Prop
  | .name, text, name => Strips text name
  | .modifiers, text, name =>
    ∃ inner rest, text = inner ++ ')' :: rest ∧
      (∀ c ∈ inner, inModifiers c) ∧ Strips rest name
  | .brackets, text, name =>
    name = [] ∧ ∃ length rest, text = length ++ ']' :: rest ∧
      (∀ c ∈ length, isAsciiDigit c) ∧ IsSuffix rest
  | .suffix, text, name => name = [] ∧ IsSuffix text

private theorem ahead_of_bareName? {place : Place}
    (read : bareName? place text = some name) : Ahead place text name := by
  induction text generalizing place name with
  | nil =>
      cases place with
      | name =>
          cases read
          exact .suffix .nil
      | suffix =>
          cases read
          exact ⟨rfl, .nil⟩
      | modifiers | brackets => cases read
  | cons c rest induction =>
      cases place with
      | name =>
          rw [bareName?_name] at read
          split_ifs at read with parenthesis bracket
          · obtain ⟨inner, after, rfl, inside, strips⟩ := induction read
            rw [parenthesis]
            exact .modifier inside strips
          · obtain ⟨rfl, length, after, rfl, digits, suffix⟩ := induction read
            rw [bracket]
            exact .suffix (.cons digits suffix)
          · obtain ⟨more, later, rfl⟩ := Option.map_eq_some_iff.mp read
            exact .own parenthesis bracket (induction later)
      | modifiers =>
          rw [bareName?_modifiers] at read
          split_ifs at read with closing known
          · exact ⟨[], rest, by rw [closing]; rfl, by simp, induction read⟩
          · obtain ⟨inner, after, rfl, inside, strips⟩ := induction read
            exact ⟨c :: inner, after, rfl,
              List.forall_mem_cons.mpr ⟨known, inside⟩, strips⟩
      | brackets =>
          rw [bareName?_brackets] at read
          split_ifs at read with closing digit
          · obtain ⟨rfl, suffix⟩ := induction read
            exact ⟨rfl, [], rest, by rw [closing]; rfl, by simp, suffix⟩
          · obtain ⟨rfl, length, after, rfl, digits, suffix⟩ := induction read
            exact ⟨rfl, c :: length, after, rfl,
              List.forall_mem_cons.mpr ⟨digit, digits⟩, suffix⟩
      | suffix =>
          rw [bareName?_suffix] at read
          split_ifs at read with bracket
          obtain ⟨rfl, length, after, rfl, digits, suffix⟩ := induction read
          rw [bracket]
          exact ⟨rfl, .cons digits suffix⟩

/-- The check takes out of a text what the grammar calls modifiers and
brackets. -/
theorem bareName?_eq_some_iff :
    bareName? .name text = some name ↔ Strips text name := by
  constructor
  · exact ahead_of_bareName?
  · exact bareName?_of_strips

end Reader

/-- What the check accepts. -/
theorem check_eq_ok_iff (text : String) :
    check text = .ok () ↔ IsLooseText (trim text).toList := by
  have valid : check text = .ok () ↔ isValid text := by
    unfold check
    split <;> simp [*]
  rw [valid, isValid]
  split
  · next name read =>
      rw [isName_iff]
      constructor
      · intro accepted
        obtain ⟨names, spaced, known⟩ := accepted
        exact ⟨name, names, bareName?_eq_some_iff.mp read, spaced, known⟩
      · intro loose
        obtain ⟨other, names, strips, spaced, known⟩ := loose
        rw [← bareName?_eq_some_iff, read] at strips
        cases strips
        exact ⟨names, spaced, known⟩
  · next refused =>
      constructor
      · intro accepted
        cases accepted
      · intro loose
        obtain ⟨name, _, strips, _⟩ := loose
        rw [← bareName?_eq_some_iff, refused] at strips
        cases strips

/-! ## Modifiers and blanks in place -/

theorem isBlank_of_isAsciiDigit {c : Char} (digit : isAsciiDigit c) :
    isBlank c = false := by
  have spelled : "0123456789".toList.all (isBlank · == false) := rfl
  have own := List.all_eq_true.mp spelled c (mem_of_isAsciiDigit digit)
  simpa using own

private theorem isSpace_of_inside {c : Char}
    (inside : inModifiers c || inBrackets c) (blank : isBlank c) :
    isSpace c := by
  have sign : isAsciiDigit c = false := by
    cases digit : isAsciiDigit c with
    | false => rfl
    | true =>
        rw [isBlank_of_isAsciiDigit digit] at blank
        cases blank
  simp only [inModifiers, inBrackets, sign, Bool.false_or, Bool.or_eq_true,
    beq_iff_eq] at inside
  rcases inside with (rfl | rfl) | rfl | rfl
  · cases blank
  · rfl
  · cases blank
  · cases blank

theorem IsSuffix.inBrackets {text : List Char} (suffix : IsSuffix text) :
    ∀ c ∈ text, inBrackets c := by
  induction suffix with
  | nil => simp
  | cons digits _ induction =>
      intro c member
      simp only [List.cons_append, List.mem_cons, List.mem_append] at member
      rcases member with rfl | digit | rfl | later
      · rfl
      · simp [TypeName.inBrackets, digits c digit]
      · rfl
      · exact induction c later

section Places

variable {front inner back suffix rest text name : List Char}
  {names : List String}

theorem Strips.append (free : ∀ c ∈ front, c ≠ '(' ∧ c ≠ '[')
    (strips : Strips text name) : Strips (front ++ text) (front ++ name) := by
  induction front with
  | nil => exact strips
  | cons c front induction =>
      rw [List.forall_mem_cons] at free
      exact .own free.1.1 free.1.2 (induction free.2)

private theorem not_mem_of_kind {kind : Char → Bool}
    (inside : ∀ c ∈ text, kind c) {c : Char} (foreign : kind c = false) :
    c ∉ text := by
  intro member
  rw [inside c member] at foreign
  cases foreign

/-- What is taken out of a text are modifiers and brackets. -/
theorem Strips.not_mem (strips : Strips text name) {c : Char}
    (foreign : (inModifiers c || inBrackets c || c == '(' || c == ')') = false)
    (unnamed : c ∉ name) : c ∉ text := by
  simp only [Bool.or_eq_false_iff, beq_eq_false_iff_ne] at foreign
  obtain ⟨⟨⟨modifier, bracket⟩, opening⟩, closing⟩ := foreign
  induction strips with
  | suffix suffix => exact not_mem_of_kind suffix.inBrackets bracket
  | own _ _ _ induction =>
      rw [List.mem_cons, not_or] at unnamed ⊢
      exact ⟨unnamed.1, induction unnamed.2⟩
  | modifier inside _ induction =>
      simp only [List.cons_append, List.mem_cons, List.mem_append, not_or]
      exact ⟨opening, not_mem_of_kind inside modifier, closing,
        induction unnamed⟩

/-- A text without modifiers is its name with brackets behind it; another one
is cut at its first modifier. -/
theorem Strips.split (strips : Strips text name) :
    (∃ suffix, IsSuffix suffix ∧ text = name ++ suffix) ∨
      ∃ front inner rest back, (∀ c ∈ inner, inModifiers c) ∧
        Strips rest back ∧ text = front ++ '(' :: inner ++ ')' :: rest ∧
        name = front ++ back := by
  induction strips with
  | @suffix text suffix => exact .inl ⟨text, suffix, rfl⟩
  | @own c _ _ _ _ _ induction =>
      rcases induction with ⟨suffix, brackets, rfl⟩ |
        ⟨front, inner, rest, back, inside, strips, rfl, rfl⟩
      · exact .inl ⟨suffix, brackets, rfl⟩
      · exact .inr ⟨c :: front, inner, rest, back, inside, strips, rfl, rfl⟩
  | @modifier inner text name inside strips _ =>
      exact .inr ⟨[], inner, text, name, inside, strips, rfl, rfl⟩

/-- Brackets do not change whether a word has ended. -/
theorem endsWord_append_iff (suffix : IsSuffix rest) :
    EndsWord front (back ++ rest) ↔ EndsWord front back := by
  cases back with
  | cons c back => rfl
  | nil =>
      cases suffix with
      | nil => rfl
      | cons _ _ => simp [EndsWord]

private theorem not_mem_of_spaced (known : NamesType names)
    (spaced : Spaced isSpace names name) {c : Char}
    (foreign : (isFree c || isInner c) = false) : c ∉ name := by
  have valid : isName name :=
    isName_iff.mpr ⟨names, (spaced_isSpace_iff.mp spaced).1, known⟩
  exact not_mem_of_isName valid foreign

private theorem free_of_spaced (known : NamesType names)
    (spaced : Spaced isSpace names name) :
    ∀ c ∈ name, c ≠ '(' ∧ c ≠ '[' := by
  intro c member
  constructor
  · rintro rfl
    exact not_mem_of_spaced known spaced rfl member
  · rintro rfl
    exact not_mem_of_spaced known spaced rfl member

/-- Other characters than those of names, modifiers and brackets are not in a
text that the check accepts. -/
theorem IsLooseText.not_mem (loose : IsLooseText text) {c : Char}
    (foreign : (isFree c || isInner c) = false)
    (other : (inModifiers c || inBrackets c || c == '(' || c == ')') = false) :
    c ∉ text := by
  obtain ⟨name, names, strips, spaced, known⟩ := loose
  have valid : isName name := isName_iff.mpr ⟨names, spaced, known⟩
  exact strips.not_mem other (not_mem_of_isName valid foreign)

/-- The check accepts every text of the grammar. -/
theorem IsTypeText.isLooseText (typed : IsTypeText text) :
    IsLooseText text := by
  cases typed with
  | @plain names name suffix known spaced brackets =>
      refine ⟨name, names, ?_, (spaced_isSpace_iff.mp spaced).1, known⟩
      have strips := Strips.append (free_of_spaced known spaced)
        (.suffix brackets)
      rwa [List.append_nil] at strips
  | @modified names front inner back suffix known spaced _ inside brackets =>
      refine ⟨front ++ back, names, ?_, (spaced_isSpace_iff.mp spaced).1,
        known⟩
      obtain ⟨frontFree, backFree⟩ :=
        List.forall_mem_append.mp (free_of_spaced known spaced)
      have behind := Strips.append backFree (.suffix brackets)
      rw [List.append_nil] at behind
      rw [List.append_assoc]
      exact .append frontFree (.modifier inside behind)

theorem IsTypeText.plainBlanks (typed : IsTypeText text) :
    PlainBlanks text := by
  cases typed with
  | plain _ spaced suffix =>
      intro c member blank
      rcases List.mem_append.mp member with own | bracket
      · exact (spaced_isSpace_iff.mp spaced).2 c own blank
      · exact isSpace_of_inside (by simp [suffix.inBrackets c bracket]) blank
  | @modified _ front inner back _ _ spaced _ inside suffix =>
      have own := (spaced_isSpace_iff.mp spaced).2
      intro c member blank
      simp only [List.mem_append, List.mem_cons] at member own
      rcases member with (before | rfl | modifier) | rfl | after | bracket
      · exact own c (.inl before) blank
      · cases blank
      · exact isSpace_of_inside (by simp [inside c modifier]) blank
      · cases blank
      · exact own c (.inr after) blank
      · exact isSpace_of_inside (by simp [suffix.inBrackets c bracket]) blank

/-- A text with one pair of parentheses can be cut at it in one way only. -/
private theorem eq_of_parenthesized_eq {first modifiers last : List Char}
    (opening : '(' ∉ front ++ back) (openingInner : '(' ∉ inner)
    (closing : ')' ∉ front ++ back) (closingInner : ')' ∉ inner)
    (equal : front ++ '(' :: inner ++ ')' :: back =
      first ++ '(' :: modifiers ++ ')' :: last) :
    front = first ∧ back = last := by
  rw [List.mem_append, not_or] at opening closing
  have later : '(' ∉ inner ++ ')' :: back := by
    apply List.not_mem_append openingInner
    apply List.not_mem_cons_of_ne_of_not_mem (by decide) opening.2
  rw [List.append_assoc, List.append_assoc, List.cons_append,
    List.cons_append,
    List.append_cons_inj_of_notMem opening.1 later] at equal
  obtain ⟨same, _, behind⟩ := equal
  rw [List.append_cons_inj_of_notMem closingInner closing.2] at behind
  exact ⟨same, behind.2.2⟩

theorem IsTypeText.modifiersInPlace (typed : IsTypeText text) :
    ModifiersInPlace text := by
  intro first modifiers last equal _
  cases typed with
  | @plain _ name suffix known spaced brackets =>
      have outside : '(' ∉ name ++ suffix := by
        apply List.not_mem_append
        · exact not_mem_of_spaced known spaced rfl
        · exact not_mem_of_kind brackets.inBrackets rfl
      rw [equal] at outside
      exact absurd (by simp) outside
  | @modified _ front inner back suffix known spaced ends inside brackets =>
      have outside (c : Char) (foreign : (isFree c || isInner c) = false)
          (other : inBrackets c = false) : c ∉ front ++ (back ++ suffix) := by
        rw [← List.append_assoc]
        apply List.not_mem_append
        · exact not_mem_of_spaced known spaced foreign
        · exact not_mem_of_kind brackets.inBrackets other
      have opening := outside '(' rfl rfl
      obtain ⟨rfl, rfl⟩ := eq_of_parenthesized_eq opening
        (not_mem_of_kind inside rfl) (outside ')' rfl rfl)
        (not_mem_of_kind inside rfl) equal
      exact ⟨opening, (endsWord_append_iff brackets).mpr ends⟩

/-- What the check accepts is in the grammar if modifiers and blanks are in
place. -/
theorem IsLooseText.isTypeText (loose : IsLooseText text)
    (places : ModifiersInPlace text) (blanks : PlainBlanks text) :
    IsTypeText text := by
  obtain ⟨name, names, strips, spaced, known⟩ := loose
  rcases strips.split with ⟨suffix, brackets, rfl⟩ |
    ⟨front, inner, rest, back, inside, behind, rfl, rfl⟩
  · have plain : Spaced isSpace names name :=
      spaced.restrict fun c member => blanks c (List.mem_append_left _ member)
    exact .plain known plain brackets
  · obtain ⟨once, ends⟩ := places front inner rest rfl inside
    rcases behind.split with ⟨suffix, brackets, rfl⟩ |
      ⟨second, _, _, _, _, _, rfl, _⟩
    · have plain : Spaced isSpace names (front ++ back) := by
        apply spaced.restrict
        intro c member
        apply blanks c
        simp only [List.mem_append, List.mem_cons] at member ⊢
        tauto
      rw [endsWord_append_iff brackets] at ends
      exact .modified known plain ends inside brackets
    · simp at once

theorem isTypeText_iff :
    IsTypeText text ↔
      IsLooseText text ∧ ModifiersInPlace text ∧ PlainBlanks text := by
  constructor
  · intro typed
    exact ⟨typed.isLooseText, typed.modifiersInPlace, typed.plainBlanks⟩
  · intro accepted
    exact accepted.1.isTypeText accepted.2.1 accepted.2.2

end Places

/-- What the check accepts, and what in it is of the grammar: the texts in which
modifiers stand once, behind a whole word, and the blanks are those of SQL. -/
theorem isTypeText_iff_check (text : String) :
    (check text = .ok () ↔ IsLooseText (trim text).toList) ∧
      (IsTypeText (trim text).toList ↔
        check text = .ok () ∧ ModifiersInPlace (trim text).toList ∧
          PlainBlanks (trim text).toList) := by
  constructor
  · exact check_eq_ok_iff text
  · rw [check_eq_ok_iff]
    exact isTypeText_iff

/-- Modifiers inside of a word and a blank that SQL takes for a letter are
accepted, though neither is of the grammar. -/
theorem isTypeText_iff_check_misplaced :
    check "nume(10)ric" = .ok () ∧
      ¬ IsTypeText (trim "nume(10)ric").toList ∧
      check "double\u00a0precision" = .ok () ∧
      ¬ IsTypeText (trim "double\u00a0precision").toList := by
  refine ⟨rfl, fun typed => ?_, rfl, fun typed => ?_⟩
  · have places := ((isTypeText_iff_check _).2.mp typed).2.1
    obtain ⟨_, _, blank | next⟩ := places "nume".toList "10".toList
      "ric".toList rfl (List.all_eq_true.mp rfl)
    · obtain ⟨c, last, blank⟩ := blank
      cases last
      cases blank
    · rcases next 'r' rfl with blank | bracket
      · cases blank
      · cases bracket
  · have blanks := ((isTypeText_iff_check _).2.mp typed).2.2
    have same : (trim "double\u00a0precision").toList =
        "double\u00a0precision".toList := rfl
    rw [same] at blanks
    cases blanks '\u00a0' (by decide) rfl

end SqlExpr.TypeName
