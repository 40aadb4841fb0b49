import SqlExpr.Proofs.Text.LetterCase
import SqlExpr.Proofs.Text.Pieces
import SqlExpr.Schema.Derivation

/-!
# Names of tables and columns

A name of SQL matches `[A-Za-z_][A-Za-z0-9_]*`.  A column has such a name, and a
table such a name or two of them with a dot between.  A text is accepted for
either exactly if that is what it is without the blanks around it.
-/

namespace SqlExpr.Schema

open SqlExpr.Name SqlExpr.Text

/-- A text that matches `[A-Za-z_][A-Za-z0-9_]*`. -/
def IsSqlName (text : String) : Prop :=
  ∃ first rest, text.toList = first :: rest ∧
    (first.isAlpha ∨ first = '_') ∧ ∀ c ∈ rest, c.isAlphanum ∨ c = '_'

/-- The name of a table, possibly with that of its schema before it. -/
def IsTableName (text : String) : Prop :=
  IsSqlName text ∨ ∃ schema table, IsSqlName schema ∧ IsSqlName table ∧
    text = schema ++ "." ++ table

variable {text name stem ending : String} {c : Char}

/-! ## Characters -/

theorem beginsName_iff : beginsName c ↔ c.isAlpha ∨ c = '_' := by
  rw [isAlpha_iff, beginsName, isAsciiLetter]
  simp only [Bool.or_eq_true, Bool.and_eq_true, beq_iff_eq, decide_eq_true_eq]
  exact or_comm.trans (or_congr_left or_comm)

theorem isAsciiDigit_iff : isAsciiDigit c ↔ c.isDigit := by
  rw [isDigit_iff, isAsciiDigit, Bool.and_eq_true, decide_eq_true_eq,
    decide_eq_true_eq]

theorem not_isDigit_of_isAlpha (alpha : c.isAlpha) : ¬ c.isDigit := by
  have ascii := lt_of_isAlphanum (isAlphanum_iff.mpr (.inl alpha))
  revert alpha
  apply ascii_forall ?_ ascii
  decide +kernel

theorem isSqlName_cons_iff {first : Char} {rest : List Char}
    (split : text.toList = first :: rest) :
    IsSqlName text ↔ (first.isAlpha ∨ first = '_') ∧
      ∀ c ∈ rest, c.isAlphanum ∨ c = '_' := by
  unfold IsSqlName
  rw [split]
  constructor
  · rintro ⟨_, _, ⟨⟩, word⟩
    exact word
  · intro word
    exact ⟨first, rest, rfl, word⟩

theorem not_isSqlName_empty : ¬ IsSqlName "" := by
  rintro ⟨_, _, ⟨⟩, _⟩

theorem isSqlName_iff : isSqlName text ↔ IsSqlName text := by
  cases split : text.toList with
  | nil =>
      cases String.toList_eq_nil_iff.mp split
      exact iff_of_false (by decide) not_isSqlName_empty
  | cons first rest =>
      have letter (c : Char) :
          (c.isAlpha ∨ c = '_') ∨ c.isDigit ↔ c.isAlphanum ∨ c = '_' := by
        rw [isAlphanum_iff]
        exact or_right_comm
      rw [isSqlName_cons_iff split, isSqlName, isWord, split]
      simp only [Bool.and_eq_true, List.all_eq_true, Bool.or_eq_true,
        beginsName_iff, isAsciiDigit_iff, List.contains_nil,
        Bool.false_eq_true, or_false, letter]

instance : DecidablePred IsSqlName :=
  fun _ => decidable_of_iff _ isSqlName_iff

/-- A name has letters, digits and underscores, the first of which is no
digit. -/
theorem isSqlName_iff_forall : IsSqlName text ↔ text.toList ≠ [] ∧
    (∀ c ∈ text.toList, c.isAlphanum ∨ c = '_') ∧
      ∀ c, text.toList.head? = some c → ¬ c.isDigit := by
  cases split : text.toList with
  | nil =>
      cases String.toList_eq_nil_iff.mp split
      exact iff_of_false not_isSqlName_empty fun isName => isName.1 rfl
  | cons first rest =>
      have letter : first.isAlpha ∨ first = '_' ↔
          (first.isAlphanum ∨ first = '_') ∧ ¬ first.isDigit := by
        rw [isAlphanum_iff]
        constructor
        · rintro (alpha | rfl)
          · exact ⟨.inl (.inl alpha), not_isDigit_of_isAlpha alpha⟩
          · exact ⟨.inr rfl, by decide⟩
        · rintro ⟨(alpha | digit) | underscore, other⟩
          · exact .inl alpha
          · exact absurd digit other
          · exact .inr underscore
      rw [isSqlName_cons_iff split, letter, List.forall_mem_cons,
        and_iff_right (List.cons_ne_nil first rest)]
      simp only [List.head?_cons, Option.some.injEq, forall_eq']
      exact and_right_comm

theorem IsSqlName.ascii (isName : IsSqlName text) (member : c ∈ text.toList) :
    c.toNat < 128 := by
  obtain ⟨_, letters, _⟩ := isSqlName_iff_forall.mp isName
  obtain plain | rfl := letters c member
  · exact lt_of_isAlphanum plain
  · decide

theorem IsSqlName.dot_not_mem (isName : IsSqlName text) :
    '.' ∉ text.toList := by
  obtain ⟨_, letters, _⟩ := isSqlName_iff_forall.mp isName
  intro member
  have other := letters '.' member
  revert other
  decide

/-- Letters behind a text do not change whether it is a name. -/
theorem isSqlName_append_iff (letters : ∀ c ∈ ending.toList, c.isAlpha) :
    IsSqlName (stem ++ ending) ↔ IsSqlName stem ∨ stem = "" ∧ ending ≠ "" := by
  have plain : ∀ c ∈ ending.toList, c.isAlphanum ∨ c = '_' := by
    intro c member
    exact .inl (isAlphanum_iff.mpr (.inl (letters c member)))
  cases split : stem.toList with
  | nil =>
      cases String.toList_eq_nil_iff.mp split
      rw [String.empty_append, or_iff_right not_isSqlName_empty,
        and_iff_right rfl]
      constructor
      · rintro isName rfl
        exact not_isSqlName_empty isName
      · intro longer
        obtain ⟨first, rest, split⟩ := List.exists_cons_of_ne_nil
          (mt String.toList_eq_nil_iff.mp longer)
        rw [split, List.forall_mem_cons] at letters plain
        exact ⟨first, rest, split, .inl letters.1, plain.2⟩
  | cons first rest =>
      have longer : ¬ (stem = "" ∧ ending ≠ "") := by
        rintro ⟨rfl, _⟩
        cases split
      have whole : (stem ++ ending).toList =
          first :: (rest ++ ending.toList) := by
        rw [String.toList_append, split, List.cons_append]
      rw [isSqlName_cons_iff whole, isSqlName_cons_iff split,
        List.forall_mem_append, and_iff_left plain, or_iff_left longer]

/-! ## Accepted texts -/

theorem columnName_eq_ok_iff :
    columnName text = .ok name ↔ name = trim text ∧ IsSqlName (trim text) := by
  unfold columnName
  dsimp only
  split
  next empty =>
    rw [String.isEmpty_iff] at empty
    rw [empty]
    simp [not_isSqlName_empty]
  next =>
    split
    next isName => simp [isSqlName_iff.mp isName, eq_comm]
    next other =>
      rw [isSqlName_iff] at other
      simp [other]

theorem isTableName_iff :
    (pieces '.' text).all isSqlName ∧ (pieces '.' text).length ≤ 2 ↔
      IsTableName text := by
  constructor
  · rintro ⟨names, short⟩
    have joined := joinWith_piecesWhere '.' text.toList
    rw [String.ofList_toList] at joined
    simp only [List.all_eq_true, isSqlName_iff] at names
    cases parts : pieces '.' text with
    | nil => exact absurd parts (by simp [pieces, piecesWhere_ne_nil])
    | cons first others =>
        have whole : joinWith "." (first :: others) = text := parts ▸ joined
        rw [parts, List.forall_mem_cons] at names
        cases others with
        | nil => exact .inl (whole ▸ names.1)
        | cons second rest =>
            rw [parts] at short
            cases List.eq_nil_of_length_eq_zero (l := rest)
              (by simp only [List.length_cons] at short; omega)
            have own := names.2 second List.mem_cons_self
            exact .inr ⟨first, second, names.1, own, whole.symm⟩
  · rintro (isName | ⟨schema, table, isSchema, isTable, rfl⟩)
    · have whole : ∀ own ∈ [text], '.' ∉ own.toList := by
        simpa using isName.dot_not_mem
      have cut := pieces_joinWith whole
      rw [joinWith] at cut
      rw [cut]
      simp [isSqlName_iff.mpr isName]
    · have whole : ∀ own ∈ [schema, table], '.' ∉ own.toList := by
        simpa using ⟨isSchema.dot_not_mem, isTable.dot_not_mem⟩
      have cut := pieces_joinWith whole
      have joined : joinWith (String.ofList ['.']) [schema, table] =
          schema ++ "." ++ table := rfl
      rw [joined] at cut
      rw [cut]
      simp [isSqlName_iff.mpr isSchema, isSqlName_iff.mpr isTable]

theorem not_isTableName_empty : ¬ IsTableName "" := by
  rintro (isName | ⟨schema, table, _, _, joined⟩)
  · exact not_isSqlName_empty isName
  · have letters := congrArg String.toList joined
    simp at letters

theorem isTableName_iff_isSqlName (plain : '.' ∉ text.toList) :
    IsTableName text ↔ IsSqlName text := by
  apply or_iff_left
  rintro ⟨schema, table, _, _, rfl⟩
  simp at plain

theorem IsTableName.ascii (isName : IsTableName text)
    (member : c ∈ text.toList) : c.toNat < 128 := by
  obtain isName | ⟨schema, table, isSchema, isTable, rfl⟩ := isName
  · exact isName.ascii member
  · simp only [String.toList_append, List.mem_append] at member
    obtain (first | dot) | second := member
    · exact isSchema.ascii first
    · obtain rfl : c = '.' := by simpa using dot
      decide
    · exact isTable.ascii second

theorem tableName_eq_ok_iff :
    tableName text = .ok name ↔
      name = trim text ∧ IsTableName (trim text) := by
  unfold tableName
  dsimp only
  split
  next empty =>
    rw [String.isEmpty_iff] at empty
    rw [empty]
    simp [not_isTableName_empty]
  next =>
    rw [← isTableName_iff]
    split
    next accepted =>
      simp only [Bool.and_eq_true, decide_eq_true_eq] at accepted
      simp [accepted, eq_comm]
    next refused =>
      simp only [Bool.and_eq_true, decide_eq_true_eq] at refused
      simp only [reduceCtorEq, refused, and_false]

end SqlExpr.Schema
