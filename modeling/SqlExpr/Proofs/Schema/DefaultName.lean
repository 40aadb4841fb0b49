import SqlExpr.Proofs.Schema.Derivation
import SqlExpr.Proofs.Text.WordCase

/-!
# Names that tables get

The name that an attribute gives to a table is checked.  The one that is made
from the name of the item is not, and is the name of a table only if the words
of the item's name are in ASCII and do not begin with a digit.
-/

namespace SqlExpr.Schema

open SqlExpr.Text

variable {declaration : Declaration} {schema : TableSchema}
  {name : String} {c : Char}

/-! ## Plurals -/

theorem plural_cases (name : String) :
    plural name = name ++ "s" ∨ plural name = name ++ "es" ∨
      ∃ stem, name = stem ++ "y" ∧ plural name = stem ++ "ies" := by
  unfold plural
  split
  next => exact .inr (.inl rfl)
  next stem reversed =>
    have letters : name.toList = stem.reverse ++ ['y'] := by
      rw [← List.reverse_reverse name.toList, reversed, List.reverse_cons]
    have cut : name = String.ofList stem.reverse ++ "y" := by
      rw [← String.toList_inj, letters, String.toList_append,
        String.toList_ofList]
      rfl
    split
    next c before =>
      split
      next => exact .inl rfl
      next => exact .inr (.inr ⟨_, cut, rfl⟩)
    next => exact .inr (.inr ⟨"", cut, rfl⟩)
  next => exact .inl rfl

/-- The plural has another ending than the name, and both endings are made of
letters. -/
theorem exists_stem_plural (name : String) :
    ∃ stem rest ending, name = stem ++ rest ∧ plural name = stem ++ ending ∧
      (∀ c ∈ rest.toList, c.isAlpha) ∧ (∀ c ∈ ending.toList, c.isAlpha) ∧
        ending ≠ "" := by
  have whole : name = name ++ "" := String.append_empty.symm
  have letters {text : String} (checked : text.toList.all Char.isAlpha) :
      ∀ c ∈ text.toList, c.isAlpha := List.all_eq_true.mp checked
  obtain written | written | ⟨stem, cut, written⟩ := plural_cases name
  · exact ⟨name, "", "s", whole, written, letters (by decide),
      letters (by decide), by decide⟩
  · exact ⟨name, "", "es", whole, written, letters (by decide),
      letters (by decide), by decide⟩
  · exact ⟨stem, "y", "ies", cut, written, letters (by decide),
      letters (by decide), by decide⟩

/-- A plural is a name exactly if what it is the plural of is one, or
nothing. -/
theorem isSqlName_plural_iff :
    IsSqlName (plural name) ↔ name = "" ∨ IsSqlName name := by
  obtain ⟨stem, rest, ending, rfl, written, restLetters, letters, longer⟩ :=
    exists_stem_plural name
  rw [written, isSqlName_append_iff letters, isSqlName_append_iff restLetters,
    and_iff_left longer, String.append_eq_empty_iff]
  tauto

/-- What is outside of ASCII in a name is so in its plural. -/
theorem mem_plural_of_le (member : c ∈ name.toList) (beyond : 128 ≤ c.toNat) :
    c ∈ (plural name).toList := by
  obtain ⟨stem, rest, ending, rfl, written, restLetters, _⟩ :=
    exists_stem_plural name
  rw [String.toList_append, List.mem_append] at member
  rw [written, String.toList_append]
  apply List.mem_append_left
  apply member.resolve_right
  intro last
  have plain := isAlphanum_iff.mpr (.inl (restLetters c last))
  exact absurd (lt_of_isAlphanum plain) (Nat.not_lt.mpr beyond)

theorem of_mem_plural (member : c ∈ (plural name).toList) :
    c ∈ name.toList ∨ c.isAlpha := by
  obtain ⟨stem, rest, ending, rfl, written, _, letters, _⟩ :=
    exists_stem_plural name
  rw [written, String.toList_append, List.mem_append] at member
  rw [String.toList_append, List.mem_append]
  obtain own | last := member
  · exact .inl (.inl own)
  · exact .inr (letters c last)

/-! ## Names of tables -/

/-- A name from which the name of a table can be made: the lower case of its
letters and digits is in ASCII, and the first of them is no digit. -/
structure NamesTable (name : String) : Prop where
  plain : IsPlainName name
  begins : ∀ c, name.toList.find? isAlphanumeric = some c → ¬ c.isDigit

theorem isSqlName_snakeCase_iff (plain : IsPlainName name) :
    snakeCase name = "" ∨ IsSqlName (snakeCase name) ↔ NamesTable name := by
  have digit (first? : Option Char) :
      (∀ c, first? = some c → ¬ c.isDigit) ↔
        first?.map Char.isDigit ≠ some true := by
    cases first? <;> simp
  have begins :
      (∀ c, (snakeCase name).toList.head? = some c → ¬ c.isDigit) ↔
        ∀ c, name.toList.find? isAlphanumeric = some c → ¬ c.isDigit := by
    rw [digit, digit, head?_snakeCase plain]
  rw [isSqlName_iff_forall, begins]
  constructor
  · rintro (empty | ⟨_, _, first⟩)
    · refine ⟨plain, begins.mp ?_⟩
      rw [empty]
      rintro _ ⟨⟩
    · exact ⟨plain, first⟩
  · rintro ⟨_, first⟩
    by_cases empty : snakeCase name = ""
    · exact .inl empty
    · exact .inr ⟨mt String.toList_eq_nil_iff.mp empty,
        fun _ => of_mem_snakeCase plain, first⟩

/-- The name that is made for a table is one exactly if the name of the item
allows for it. -/
theorem isTableName_defaultTableName_iff :
    IsTableName (defaultTableName name) ↔ NamesTable (unmarked name) := by
  unfold defaultTableName
  by_cases plain : IsPlainName (unmarked name)
  · have noDot : '.' ∉ (plural (snakeCase (unmarked name))).toList := by
      intro member
      have other : ¬ ('.'.isAlphanum ∨ '.' = '_') := by decide
      obtain inside | letter := of_mem_plural member
      · exact other (of_mem_snakeCase plain inside)
      · revert letter
        decide
    rw [isTableName_iff_isSqlName noDot, isSqlName_plural_iff,
      isSqlName_snakeCase_iff plain]
  · apply iff_of_false
    · intro isName
      apply plain
      intro c member known
      by_contra foreign
      obtain ⟨d, written, beyond⟩ :=
        exists_foreign_snakeCase member known foreign
      have ascii := isName.ascii (mem_plural_of_le written beyond)
      exact absurd ascii (Nat.not_lt.mpr beyond)
    · intro names
      exact plain names.plain

/-- The names that attributes give to a table are names of tables. -/
theorem Reading.isTableName_of_mem (reading : Reading declaration)
    (member : name ∈ reading.names) : IsTableName name := by
  obtain ⟨tokens, spelled⟩ := reading.said.exists_spells member
  cases spelled with
  | name isName => exact isName

/-- The table of a declaration has a valid name exactly if it is given one or
the one that is made from the name of the item is valid: in that name, the lower
case of the letters and digits must be in ASCII, and the first of them must not
be a digit. -/
theorem isTableName_tableName_iff (success : declaration.schema = .ok schema)
    (reading : Reading declaration) :
    IsTableName schema.tableName ↔
      reading.names ≠ [] ∨ NamesTable (unmarked declaration.name) := by
  obtain ⟨_, found, _, rfl⟩ := schema_eq_ok_iff.mp success
  cases Subsingleton.elim found reading
  rw [Reading.schema, Reading.tableName]
  cases last : reading.names.getLast? with
  | none =>
      rw [List.getLast?_eq_none_iff] at last
      rw [last, Option.getD_none, isTableName_defaultTableName_iff]
      exact (or_iff_right fun given => given rfl).symm
  | some name =>
      have member := List.mem_of_getLast? last
      exact iff_of_true (reading.isTableName_of_mem member)
        (.inl (List.ne_nil_of_mem member))

/-- The declaration `struct Größe { id: i64 }`. -/
def foreignItem : Declaration :=
  ⟨.namedFields, "Größe", [], [⟨"id", []⟩]⟩

/-- The name of an item with letters outside of ASCII makes a name that no table
could be given. -/
theorem not_isTableName_of_foreignItem :
    ∃ schema, foreignItem.schema = .ok schema ∧
      ¬ IsTableName schema.tableName := by
  let reading : Reading foreignItem :=
    { names := []
      fields := [⟨⟨"id", []⟩, _, .nil⟩]
      said := .nil
      listed := rfl }
  have success : foreignItem.schema = .ok reading.schema := by rfl
  refine ⟨reading.schema, success, ?_⟩
  rw [isTableName_tableName_iff success reading]
  rintro (given | ⟨plain, _⟩)
  · exact given rfl
  · revert plain
    decide +kernel

end SqlExpr.Schema
