import SqlExpr.Proofs.Lexis.Names
import SqlExpr.Proofs.Number.Digits
import SqlExpr.Proofs.Output.Part

/-!
# How values and names are read

The text of a value is a number, possibly behind a minus, a text in quotes or
one of three keywords; the text of a column is a row of quoted names with
points between them.  None of this depends on what the values and names hold.
-/

namespace SqlExpr

open SqlExpr.Lexis SqlExpr.Name SqlExpr.Number SqlExpr.Text

/-- The tokens of a value. -/
inductive IsLiteral : List Token → Prop where
  | number (digits : String) : IsLiteral [.number digits]
  | negative (digits : String) : IsLiteral [.operator "-", .number digits]
  | text (content : String) : IsLiteral [.text content]
  | keyword (word : String) (known : word ∈ ["NULL", "TRUE", "FALSE"]) :
      IsLiteral [.word word]

/-- The tokens of a column: quoted names with points between them. -/
inductive IsReference : List Token → Prop where
  | name (content : String) : IsReference [.name content]
  | qualified (content : String) (rest : List Token)
      (reference : IsReference rest) :
      IsReference (.name content :: .mark '.' :: rest)

/-! ## Numbers -/

/-- Digits, and possibly points behind the first one. -/
def IsNumeral (text : List Char) : Prop :=
  ∃ c rest, text = c :: rest ∧ isAsciiDigit c ∧
    ∀ d ∈ rest, isAsciiDigit d ∨ d = '.'

private theorem step_minus {c : Char} (digit : isAsciiDigit c) :
    (Mode.operator ['-']).step c = ([.operator "-"], .number [c]) := by
  have spelled : "0123456789".toList.all fun d =>
      (Mode.operator ['-']).step d = ([.operator "-"], .number [d]) := rfl
  have own := List.all_eq_true.mp spelled c (mem_of_isAsciiDigit digit)
  simpa using own

private theorem run_numeral {c : Char} {rest : List Char}
    (further : ∀ d ∈ rest, isAsciiDigit d ∨ d = '.') :
    (Mode.number [c]).run rest = ([], .number (c :: rest)) := by
  refine run_number [c] rest fun d member => ?_
  rcases further d member with digit | rfl
  · simp [continuesNumber, digit]
  · rfl

namespace IsNumeral

variable {text : List Char}

theorem reads (numeral : IsNumeral text) :
    Reads text [.number (String.ofList text)] := by
  obtain ⟨c, rest, rfl, digit, further⟩ := numeral
  refine ⟨[], .number (c :: rest), _, ?_, rfl, rfl⟩
  have first : Mode.gap.step c = ([], .number [c]) := start_digit digit
  rw [Mode.run_cons, first, run_numeral further]
  rfl

theorem reads_negative (numeral : IsNumeral text) :
    Reads ('-' :: text) [.operator "-", .number (String.ofList text)] := by
  obtain ⟨c, rest, rfl, digit, further⟩ := numeral
  refine ⟨[.operator "-"], .number (c :: rest), _, ?_, rfl, rfl⟩
  have minus : Mode.gap.step '-' = ([], .operator ['-']) := rfl
  rw [Mode.run_cons, minus, Mode.run_cons, step_minus digit,
    run_numeral further]
  rfl

theorem ofDigits (nonempty : text ≠ [])
    (allDigits : ∀ c ∈ text, isAsciiDigit c) : IsNumeral text := by
  cases text with
  | nil => exact absurd rfl nonempty
  | cons c rest =>
      refine ⟨c, rest, rfl, allDigits c List.mem_cons_self, ?_⟩
      exact fun d member => .inl (allDigits d (List.mem_cons_of_mem c member))

theorem fraction (numeral : IsNumeral text) {places : List Char}
    (allDigits : ∀ c ∈ places, isAsciiDigit c) :
    IsNumeral (text ++ '.' :: places) := by
  obtain ⟨c, rest, rfl, digit, further⟩ := numeral
  refine ⟨c, rest ++ '.' :: places, rfl, digit, fun d member => ?_⟩
  rcases List.mem_append.mp member with member | member
  · exact further d member
  · rcases List.mem_cons.mp member with rfl | member
    · exact .inr rfl
    · exact .inl (allDigits d member)

theorem digit_or_point (numeral : IsNumeral text) :
    ∀ c ∈ text, isAsciiDigit c ∨ c = '.' := by
  obtain ⟨d, rest, rfl, digit, further⟩ := numeral
  exact List.forall_mem_cons.mpr ⟨.inl digit, further⟩

end IsNumeral

theorem isNumeral_digits (n : Nat) : IsNumeral (digits n) :=
  .ofDigits Nat.toDigits_ne_nil fun _ => isAsciiDigit_of_mem_digits

theorem isNumeral_positionalText (number : DecimalDigits) :
    IsNumeral (sqlLayout.positionalText number).toList := by
  obtain ⟨coefficient, exponent⟩ := number
  cases exponent with
  | ofNat zeros =>
      have text : (sqlLayout.positionalText
          ⟨coefficient, .ofNat zeros⟩).toList =
            digits coefficient ++ List.replicate zeros '0' := by
        simp [Layout.positionalText, sqlLayout]
      rw [text]
      refine .ofDigits ?_ fun c member => ?_
      · simp [digits, Nat.toDigits_ne_nil]
      · rcases List.mem_append.mp member with digit | zero
        · exact isAsciiDigit_of_mem_digits digit
        · rw [List.eq_of_mem_replicate zero]
          decide
  | negSucc places =>
      simp only [Layout.positionalText, String.toList_append,
        String.toList_ofList]
      generalize paddedDigits :
        List.replicate (places + 1 + 1 - (digits coefficient).length) '0' ++
          digits coefficient = padded
      have allDigits : ∀ c ∈ padded, isAsciiDigit c := by
        rw [← paddedDigits]
        exact fun c => isAsciiDigit_of_mem_padded
      have long : places + 1 < padded.length := by
        simp only [← paddedDigits, List.length_append, List.length_replicate]
        omega
      have whole : IsNumeral (padded.take (padded.length - (places + 1))) := by
        refine .ofDigits ?_ fun c member => ?_
        · intro empty
          have := congrArg List.length empty
          simp only [List.length_take, List.length_nil] at this
          omega
        · exact allDigits c (List.mem_of_mem_take member)
      have point : ".".toList = ['.'] := rfl
      rw [point, List.append_assoc]
      exact whole.fraction fun c member =>
        allDigits c (List.mem_of_mem_drop member)

def integerTokens : Int → List Token
  | .ofNat n => [.number (naturalText n)]
  | .negSucc n => [.operator "-", .number (naturalText (n + 1))]

theorem reads_integer (value : Int) :
    Reads (integerText value).toList (integerTokens value) := by
  cases value with
  | ofNat n =>
      have read := (isNumeral_digits n).reads
      rwa [integerTokens, integerText, naturalText, String.toList_ofList]
  | negSucc n =>
      have text :
          (integerText (.negSucc n)).toList = '-' :: digits (n + 1) := by
        simp [integerText, naturalText]
      rw [text]
      exact (isNumeral_digits (n + 1)).reads_negative

/-- Whether a number is written with a minus; other values are no numbers. -/
def Value.minus? : Value → Option Bool
  | .int value => some (value < 0)
  | .float (.finite negative ..) => some negative
  | .decimal value => some value.negative
  | _ => none

/-- A number is written as a numeral, behind a minus if it has one. -/
theorem Value.literal_of_minus? {value : Value} {minus : Bool}
    (number : value.minus? = some minus) :
    ∃ numeral : String, IsNumeral numeral.toList ∧ ∀ style,
      value.literal style = .ok ((if minus then "-" else "") ++ numeral) := by
  cases value with
  | int value =>
      cases number
      cases value with
      | ofNat n =>
          refine ⟨naturalText n, ?_, fun _ => literal_of_writeTo ?_⟩
          · simpa [naturalText] using isNumeral_digits n
          · simp [writeTo, integerText, Int.not_lt.mpr (Int.natCast_nonneg n)]
      | negSucc n =>
          refine ⟨naturalText (n + 1), ?_, fun _ => literal_of_writeTo ?_⟩
          · simpa [naturalText] using isNumeral_digits (n + 1)
          · simp [writeTo, integerText, Int.negSucc_lt_zero]
  | float value =>
      cases value with
      | finite negative significand exponent =>
          cases number
          exact ⟨_, isNumeral_positionalText _,
            fun _ => literal_of_writeTo rfl⟩
      | nan | infinity => cases number
  | decimal value =>
      cases number
      obtain ⟨negative, coefficient, scale⟩ := value
      have whole : IsNumeral
          (naturalText (coefficient / Nat.pow 10 scale)).toList := by
        simpa [naturalText] using isNumeral_digits _
      have own (style : BooleanStyle) :
          (Value.decimal ⟨negative, coefficient, scale⟩).literal style =
            .ok (Decimal.text ⟨negative, coefficient, scale⟩) :=
        literal_of_writeTo rfl
      simp only [own, Decimal.text]
      by_cases integral : scale = 0
      · rw [if_pos integral]
        exact ⟨_, whole, fun _ => rfl⟩
      · rw [if_neg integral, String.append_assoc, String.append_assoc]
        refine ⟨_, ?_, fun _ => rfl⟩
        have places : ∀ c ∈
            (paddedText scale (coefficient % Nat.pow 10 scale)).toList,
            isAsciiDigit c := by
          intro c member
          simp only [paddedText, String.toList_ofList] at member
          exact isAsciiDigit_of_mem_padded member
        simpa using whole.fraction places
  | null | bool | text | date | timestamp | timestampTz | json | uuid =>
      cases number

private theorem Value.reads_number {style : BooleanStyle} {value : Value}
    {text : String} {minus : Bool} (number : value.minus? = some minus)
    (success : value.literal style = .ok text) :
    ∃ tokens, Reads text.toList tokens ∧ IsLiteral tokens := by
  obtain ⟨numeral, isNumeral, written⟩ := literal_of_minus? number
  obtain rfl := Except.ok.inj ((written style).symm.trans success)
  cases minus with
  | false =>
      refine ⟨_, ?_, .number numeral⟩
      simpa using isNumeral.reads
  | true =>
      refine ⟨_, ?_, .negative numeral⟩
      simpa using isNumeral.reads_negative

/-! ## Values and names -/

theorem reads_writeText {content text : String}
    (written : writeText "" content = .write text) :
    Reads text.toList [.text content] := by
  cases held : hasNul content with
  | true =>
      rw [writeText_of_nul held] at written
      cases written
  | false =>
      rw [writeText_of_clean held, String.empty_append] at written
      obtain rfl := Rendering.write_injective written
      exact reads_quoted .single content

/-- A value is read as a literal. -/
theorem Value.reads_literal {style : BooleanStyle} {value : Value}
    {text : String} (success : value.literal style = .ok text) :
    ∃ tokens, Reads text.toList tokens ∧ IsLiteral tokens := by
  have written : value.writeTo style "" = .write text :=
    Rendering.result_eq_ok_iff.mp success
  cases value with
  | null =>
      cases written
      exact ⟨_, ⟨[], _, _, rfl, rfl, rfl⟩, .keyword "NULL" (by simp)⟩
  | bool value =>
      cases written
      cases style <;> cases value
      · exact ⟨_, ⟨[], _, _, rfl, rfl, rfl⟩, .keyword "FALSE" (by simp)⟩
      · exact ⟨_, ⟨[], _, _, rfl, rfl, rfl⟩, .keyword "TRUE" (by simp)⟩
      · exact ⟨_, ⟨[], _, _, rfl, rfl, rfl⟩, .number "0"⟩
      · exact ⟨_, ⟨[], _, _, rfl, rfl, rfl⟩, .number "1"⟩
  | int value | decimal value => exact reads_number rfl success
  | float value =>
      cases value with
      | finite => exact reads_number rfl success
      | nan | infinity => cases written
  | text value => exact ⟨_, reads_writeText written, .text value⟩
  | json value => exact ⟨_, reads_writeText written, .text value.text⟩
  | date value | timestamp value | timestampTz value | uuid value =>
      have quotes := Rendering.write_injective written
      rw [String.empty_append] at quotes
      subst quotes
      exact ⟨_, reads_quoted .single value.text, .text value.text⟩

theorem reads_identifier {name text : String}
    (success : quoteIdentifier name = .ok text) :
    Reads text.toList [.name name] := by
  rw [(quoteIdentifier_eq_ok_iff.mp success).2]
  exact reads_quoted .double name

private theorem isReference_names (name : String) (names : List String) :
    IsReference
      (((name :: names).map Token.name).intersperse (.mark '.')) := by
  induction names generalizing name with
  | nil => exact .name name
  | cons next names induction => exact .qualified name _ (induction next)

theorem Config.reads_column {config : Config} {table? : Option String}
    {name text : String}
    (success : config.renderColumn table? name = .write text) :
    ∃ tokens, Reads text.toList tokens ∧ IsReference tokens := by
  cases table? with
  | none =>
      have written :=
        (quoteIdentifier_eq_ok_iff.mp (Rendering.ofResult_eq_write success)).2
      rw [written]
      exact ⟨_, reads_quoted .double name, .name name⟩
  | some table =>
      obtain ⟨front, own, qualifier, last, rfl⟩ :=
        Rendering.append_eq_write success
      obtain ⟨tableText, point, tableWritten, pointWritten, rfl⟩ :=
        Rendering.append_eq_write qualifier
      cases pointWritten
      have joined :=
        (tableName_eq_ok_iff.mp (Rendering.ofResult_eq_write tableWritten)).2
      obtain ⟨first, rest, names⟩ :=
        List.exists_cons_of_ne_nil (tableNames_ne_nil table)
      rw [names] at joined
      have written :=
        (quoteIdentifier_eq_ok_iff.mp (Rendering.ofResult_eq_write last)).2
      have row : joinWith "." ((first :: (rest ++ [name])).map (quoted '"')) =
          tableText ++ "." ++ own := by
        rw [joined, written, List.map_cons, List.map_append,
          List.map_singleton, joinWith_append, ← List.map_cons]
      rw [← row]
      exact ⟨_, reads_quotedNames first (rest ++ [name]),
        isReference_names first (rest ++ [name])⟩

end SqlExpr
