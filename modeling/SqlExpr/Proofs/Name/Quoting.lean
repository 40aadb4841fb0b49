import SqlExpr.Name
import SqlExpr.Proofs.Text.Pieces
import SqlExpr.Proofs.Text.Quoted

/-!
# Names in quotes

A name can be quoted unless it is empty or has a NUL character.  A table name
whose parts between dots are all plain is quoted part by part, and that always
succeeds; any other one is quoted as a whole.
-/

namespace SqlExpr

open SqlExpr.Name SqlExpr.Text

namespace Name

/-- A name that can stand between quotes. -/
def IsQuotable (name : String) : Prop := name ≠ "" ∧ hasNul name = false

instance (name : String) : Decidable (IsQuotable name) :=
  inferInstanceAs (Decidable (_ ∧ _))

/-- A name of several plain parts with dots between them. -/
def IsCompound (name : String) : Prop :=
  ∃ parts, qualifiedParts? name = some parts ∧ 1 < parts.length

/-- Plain parts with dots between them. -/
def IsQualified (name : String) : Prop :=
  ∃ parts, parts ≠ [] ∧ (∀ part ∈ parts, isPlain part) ∧
    name = joinWith "." parts

variable {name : String} {parts : List String}

theorem qualifiedParts?_eq_some_iff :
    qualifiedParts? name = some parts ↔
      parts = pieces '.' name ∧ ∀ part ∈ parts, isPlain part := by
  unfold qualifiedParts?
  simp only [Option.ite_none_right_eq_some, List.all_eq_true,
    Option.some.injEq]
  constructor
  · rintro ⟨plain, rfl⟩
    exact ⟨rfl, plain⟩
  · rintro ⟨rfl, plain⟩
    exact ⟨plain, rfl⟩

/-- A qualified name is what its parts are joined to. -/
theorem joinWith_of_qualifiedParts?
    (qualified : qualifiedParts? name = some parts) :
    joinWith "." parts = name := by
  obtain ⟨rfl, _⟩ := qualifiedParts?_eq_some_iff.mp qualified
  have joined := joinWith_piecesWhere '.' name.toList
  rwa [String.ofList_toList] at joined

theorem qualifiedParts?_ne_nil
    (qualified : qualifiedParts? name = some parts) : parts ≠ [] := by
  obtain ⟨rfl, _⟩ := qualifiedParts?_eq_some_iff.mp qualified
  simp [pieces, piecesWhere_ne_nil]

/-- A plain name is a letter or an underscore, and behind it letters, digits,
underscores and dollars. -/
theorem exists_cons_of_isPlain (plain : isPlain name) :
    ∃ first rest, name.toList = first :: rest ∧ beginsName first ∧
      ∀ c ∈ rest, beginsName c || isAsciiDigit c || c == '$' := by
  unfold isPlain isWord at plain
  cases letters : name.toList with
  | nil =>
      rw [letters] at plain
      cases plain
  | cons first rest =>
      rw [letters] at plain
      simp only [Bool.and_eq_true, List.all_eq_true] at plain
      exact ⟨first, rest, rfl, plain.1, fun c member => by
        simpa using plain.2 c member⟩

/-- The characters of a plain name are letters, digits, underscores and
dollars. -/
theorem of_mem_isPlain {c : Char} (plain : isPlain name)
    (member : c ∈ name.toList) :
    beginsName c || isAsciiDigit c || c == '$' := by
  obtain ⟨first, rest, letters, letter, further⟩ :=
    exists_cons_of_isPlain plain
  rw [letters] at member
  rcases List.mem_cons.mp member with rfl | inside
  · simp [letter]
  · exact further c inside

theorem not_mem_of_isPlain (plain : isPlain name) {c : Char}
    (foreign : (beginsName c || isAsciiDigit c || c == '$') = false) :
    c ∉ name.toList := by
  intro member
  rw [of_mem_isPlain plain member] at foreign
  cases foreign

/-- A row of plain parts is cut into these parts. -/
theorem qualifiedParts?_joinWith (nonempty : parts ≠ [])
    (plain : ∀ part ∈ parts, isPlain part) :
    qualifiedParts? (joinWith "." parts) = some parts := by
  obtain ⟨part, rest, rfl⟩ := List.exists_cons_of_ne_nil nonempty
  have cut : pieces '.' (joinWith "." (part :: rest)) = part :: rest :=
    pieces_joinWith fun own member =>
      not_mem_of_isPlain (plain own member) (by decide)
  exact qualifiedParts?_eq_some_iff.mpr ⟨cut.symm, plain⟩

theorem isQualified_iff :
    IsQualified name ↔ ∃ parts, qualifiedParts? name = some parts := by
  constructor
  · rintro ⟨parts, nonempty, plain, rfl⟩
    exact ⟨parts, qualifiedParts?_joinWith nonempty plain⟩
  · rintro ⟨parts, qualified⟩
    exact ⟨parts, qualifiedParts?_ne_nil qualified,
      (qualifiedParts?_eq_some_iff.mp qualified).2,
      (joinWith_of_qualifiedParts? qualified).symm⟩

/-- Besides what stands in plain names, a qualified name has dots only. -/
theorem not_mem_of_qualifiedParts?
    (qualified : qualifiedParts? name = some parts) {c : Char}
    (foreign : (beginsName c || isAsciiDigit c || c == '$') = false)
    (other : c ≠ '.') : c ∉ name.toList := by
  have plain := (qualifiedParts?_eq_some_iff.mp qualified).2
  rw [← joinWith_of_qualifiedParts? qualified]
  intro member
  obtain between | ⟨part, known, inside⟩ := of_mem_joinWith member
  · exact other (List.mem_singleton.mp between)
  · exact not_mem_of_isPlain (plain part known) foreign inside

theorem isQuotable_of_isPlain (plain : isPlain name) : IsQuotable name := by
  constructor
  · rintro rfl
    cases plain
  · apply hasNul_eq_false_iff.mpr
    exact not_mem_of_isPlain plain (by decide)

/-- Qualified names are among those that can be quoted. -/
theorem isQuotable_of_qualifiedParts?
    (qualified : qualifiedParts? name = some parts) : IsQuotable name := by
  constructor
  · rintro rfl
    obtain ⟨rfl, plain⟩ := qualifiedParts?_eq_some_iff.mp qualified
    cases plain "" (by decide)
  · apply hasNul_eq_false_iff.mpr
    exact not_mem_of_qualifiedParts? qualified (by decide) (by decide)

/-- The names that the name of a table is written as. -/
def tableNames (name : String) : List String :=
  (qualifiedParts? name).getD [name]

/-- The name of a table is cut at its dots if only plain parts are between
them, and else it is one name. -/
theorem tableNames_eq (name : String) :
    tableNames name =
      if ∀ part ∈ pieces '.' name, isPlain part then pieces '.' name
      else [name] := by
  split
  next plain =>
    have qualified := qualifiedParts?_eq_some_iff.mpr ⟨rfl, plain⟩
    rw [tableNames, qualified, Option.getD_some]
  next foreign =>
    cases qualified : qualifiedParts? name with
    | none => rw [tableNames, qualified, Option.getD_none]
    | some parts =>
        obtain ⟨rfl, plain⟩ := qualifiedParts?_eq_some_iff.mp qualified
        exact absurd plain foreign

theorem joinWith_tableNames (name : String) :
    joinWith "." (tableNames name) = name := by
  unfold tableNames
  cases qualified : qualifiedParts? name with
  | none => rfl
  | some parts => exact joinWith_of_qualifiedParts? qualified

theorem tableNames_injective : Function.Injective tableNames := by
  intro name other same
  rw [← joinWith_tableNames name, same, joinWith_tableNames]

theorem tableNames_ne_nil (name : String) : tableNames name ≠ [] := by
  unfold tableNames
  cases qualified : qualifiedParts? name with
  | none => exact List.cons_ne_nil name []
  | some parts => exact qualifiedParts?_ne_nil qualified

end Name

/-! ## Quoting one name -/

section Identifier

variable {name text : String}

theorem quoteIdentifier_eq_ok_iff :
    quoteIdentifier name = .ok text ↔
      IsQuotable name ∧ text = quoted '"' name := by
  unfold quoteIdentifier IsQuotable
  split
  next empty => simp [String.isEmpty_iff.mp empty]
  next nonempty =>
    rw [String.isEmpty_iff] at nonempty
    split
    next nul => simp [nul]
    next clean => simp [nonempty, clean, eq_comm]

theorem mapM_quoteIdentifier {names : List String}
    (quotable : ∀ name ∈ names, IsQuotable name) :
    names.mapM quoteIdentifier = .ok (names.map (quoted '"')) := by
  induction names with
  | nil => rfl
  | cons name names induction =>
      rw [List.forall_mem_cons] at quotable
      have first := quoteIdentifier_eq_ok_iff.mpr ⟨quotable.1, rfl⟩
      rw [List.mapM_cons, first, induction quotable.2]
      rfl

end Identifier

/-! ## Quoting the name of a table -/

section Table

variable {name text : String} {parts : List String}

theorem tableName_of_qualified
    (qualified : qualifiedParts? name = some parts) :
    Dialect.postgres.quoting.tableName name =
      .ok (joinWith "." (parts.map (quoted '"'))) := by
  have plain := (qualifiedParts?_eq_some_iff.mp qualified).2
  unfold Quoting.tableName
  rw [qualified]
  have quotedParts := mapM_quoteIdentifier fun part member =>
    isQuotable_of_isPlain (plain part member)
  simp only [Dialect.quoting, quotedParts]
  rfl

theorem tableName_of_unqualified (unqualified : qualifiedParts? name = none) :
    Dialect.postgres.quoting.tableName name = quoteIdentifier name := by
  unfold Quoting.tableName
  rw [unqualified]
  rfl

theorem tableName_eq_ok_iff :
    Dialect.postgres.quoting.tableName name = .ok text ↔
      IsQuotable name ∧
        text = joinWith "." ((tableNames name).map (quoted '"')) := by
  unfold tableNames
  cases qualified : qualifiedParts? name with
  | none =>
      rw [tableName_of_unqualified qualified]
      exact quoteIdentifier_eq_ok_iff
  | some parts =>
      have quotable := isQuotable_of_qualifiedParts? qualified
      rw [tableName_of_qualified qualified, Except.ok.injEq]
      simp [quotable, eq_comm]

/-- A table has a name that can be quoted exactly if it can be written. -/
theorem exists_tableName_iff :
    (∃ text, Dialect.postgres.quoting.tableName name = .ok text) ↔
      IsQuotable name := by
  simp [tableName_eq_ok_iff]

theorem count_joined_of_isPlain (plain : ∀ part ∈ parts, isPlain part) :
    (joinWith "." (parts.map (quoted '"'))).toList.count '"' =
      2 * parts.length := by
  induction parts with
  | nil => rfl
  | cons part parts induction =>
      rw [List.forall_mem_cons] at plain
      have bare : part.toList.count '"' = 0 :=
        List.count_eq_zero.mpr (not_mem_of_isPlain plain.1 (by decide))
      have own : (quoted '"' part).toList.count '"' = 2 := by
        rw [count_quoted, bare]
      cases parts with
      | nil => exact own
      | cons next parts =>
          have others := induction plain.2
          simp only [List.map_cons, joinWith, String.toList_append,
            List.count_append, own, List.length_cons] at others ⊢
          rw [others]
          have point : (".".toList).count '"' = 0 := rfl
          omega

/-- A table is named as a single name is, unless its name has several parts. -/
theorem tableName_eq_quoted_iff (quotable : IsQuotable name) :
    Dialect.postgres.quoting.tableName name = .ok (quoted '"' name) ↔
      ¬ IsCompound name := by
  cases qualified : qualifiedParts? name with
  | none =>
      rw [tableName_of_unqualified qualified, quoteIdentifier_eq_ok_iff]
      simp [IsCompound, qualified, quotable]
  | some parts =>
      have joined := joinWith_of_qualifiedParts? qualified
      have nonempty := qualifiedParts?_ne_nil qualified
      have plain := (qualifiedParts?_eq_some_iff.mp qualified).2
      rw [tableName_of_qualified qualified, Except.ok.injEq]
      constructor
      · rintro same ⟨_, own, several⟩
        cases qualified.symm.trans own
        have marks := congrArg (fun text => text.toList.count '"') same
        have bare : name.toList.count '"' = 0 := List.count_eq_zero.mpr
          (not_mem_of_qualifiedParts? qualified (by decide) (by decide))
        simp only [count_joined_of_isPlain plain, count_quoted, bare] at marks
        omega
      · intro single
        cases parts with
        | nil => exact absurd rfl nonempty
        | cons part rest =>
            cases rest with
            | nil =>
                rw [← joined]
                rfl
            | cons next rest =>
                exact absurd ⟨_, qualified, by simp⟩ single

end Table

end SqlExpr
