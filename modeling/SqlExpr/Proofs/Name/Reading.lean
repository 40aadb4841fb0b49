import SqlExpr.Proofs.Lexis.Quoted
import SqlExpr.Proofs.Name.Quoting

/-!
# Reading quoted names

A row of names in double quotes with dots between them is read back as these
names.  A single name is written so that itself is read, and the name of a
table so that its parts are read, if all of them are plain, and else the name
itself.  So two names are never written alike.
-/

namespace SqlExpr.Lexis

open SqlExpr.Text

/-- The names that a text is made of, in double quotes and with dots between
them. -/
def readNames? (text : List Char) : Option (List String) :=
  match _read : Quote.double.read? text with
  | some (name, []) => some [name]
  | some (name, c :: rest) =>
    if c = '.' then (readNames? rest).map (name :: ·) else none
  | none => none
termination_by text.length
decreasing_by
  have shorter := Quote.length_lt_of_read? _read
  simp only [List.length_cons] at shorter
  omega

theorem readNames?_last {text : List Char} {name : String}
    (read : Quote.double.read? text = some (name, [])) :
    readNames? text = some [name] := by
  rw [readNames?]
  split <;> simp_all

theorem readNames?_dot {text rest : List Char} {name : String}
    (read : Quote.double.read? text = some (name, '.' :: rest)) :
    readNames? text = (readNames? rest).map (name :: ·) := by
  rw [readNames?]
  split <;> simp_all

/-- Names in quotes with dots between them are read back. -/
theorem readNames?_joined (name : String) (names : List String) :
    readNames? (joinWith "." ((name :: names).map (quoted '"'))).toList =
      some (name :: names) := by
  induction names generalizing name with
  | nil =>
      have last : ([] : List Char).head? ≠ some Quote.double.mark := by
        simp
      have read := Quote.double.read?_quoted last name
      rw [List.append_nil] at read
      exact readNames?_last read
  | cons next names induction =>
      have point : ('.' :: (joinWith "."
          ((next :: names).map (quoted '"'))).toList).head? ≠
            some Quote.double.mark := by
        simp [Quote.mark]
      have read := Quote.double.read?_quoted point name
      have whole : (joinWith "."
          ((name :: next :: names).map (quoted '"'))).toList =
          (quoted '"' name).toList ++ '.' :: (joinWith "."
            ((next :: names).map (quoted '"'))).toList := by
        simp [joinWith]
      rw [whole]
      have step := readNames?_dot read
      rw [induction] at step
      exact step

end SqlExpr.Lexis

namespace SqlExpr

open SqlExpr.Lexis SqlExpr.Text

namespace Name

variable {name text : String}

/-- What is neither empty nor has a NUL character can be quoted. -/
theorem not_isQuotable_iff :
    ¬ IsQuotable name ↔ name = "" ∨ '\x00' ∈ name.toList := by
  unfold IsQuotable
  rw [hasNul_eq_false_iff, not_and_or, not_not, not_not]

theorem quoteIdentifier_of_not_isQuotable (refused : ¬ IsQuotable name) :
    ∃ cause, quoteIdentifier name = .error (.validation cause) := by
  unfold quoteIdentifier
  split
  next => exact ⟨_, rfl⟩
  next nonempty =>
    split
    next => exact ⟨_, rfl⟩
    next clean =>
      exfalso
      apply refused
      rw [String.isEmpty_iff] at nonempty
      exact ⟨nonempty, Bool.eq_false_iff.mpr clean⟩

theorem tableName_of_not_isQuotable (refused : ¬ IsQuotable name) :
    Dialect.postgres.quoting.tableName name = quoteIdentifier name := by
  apply tableName_of_unqualified
  cases qualified : qualifiedParts? name with
  | none => rfl
  | some parts => exact absurd (isQuotable_of_qualifiedParts? qualified) refused

theorem readNames?_tableNames (name : String) :
    readNames? (joinWith "." ((tableNames name).map (quoted '"'))).toList =
      some (tableNames name) := by
  cases names : tableNames name with
  | nil => exact absurd names (tableNames_ne_nil name)
  | cons first rest => exact readNames?_joined first rest

theorem readNames?_of_tableName
    (written : Dialect.postgres.quoting.tableName name = .ok text) :
    readNames? text.toList = some (tableNames name) := by
  rw [(tableName_eq_ok_iff.mp written).2]
  exact readNames?_tableNames name

theorem readNames?_of_quoteIdentifier
    (written : quoteIdentifier name = .ok text) :
    readNames? text.toList = some [name] := by
  rw [(quoteIdentifier_eq_ok_iff.mp written).2]
  exact readNames?_joined name []

end Name

open SqlExpr.Name

/-- Names are refused exactly if they are empty or have a NUL character.  The
names read from the others tell which names they were: a single name is read as
itself, and the name of a table as the pieces between its dots if all of them
are plain, and else as itself. -/
theorem quoting_readNames? (name : String) :
    let quoting := Dialect.postgres.quoting
    (name = "" ∨ '\x00' ∈ name.toList → ∃ cause,
      quoting.identifier name = .error (.validation cause) ∧
        quoting.tableName name = .error (.validation cause)) ∧
    (¬ (name = "" ∨ '\x00' ∈ name.toList) → ∃ own table,
      quoting.identifier name = .ok own ∧
        readNames? own.toList = some [name] ∧
      quoting.tableName name = .ok table ∧
        readNames? table.toList = some
          (if ∀ part ∈ pieces '.' name, isPlain part then pieces '.' name
          else [name])) ∧
    (∀ other text, quoting.identifier name = .ok text →
      quoting.identifier other = .ok text → name = other) ∧
    ∀ other text, quoting.tableName name = .ok text →
      quoting.tableName other = .ok text → name = other := by
  intro quoting
  refine ⟨?_, ?_, ?_, ?_⟩
  · intro refused
    have unquotable := not_isQuotable_iff.mpr refused
    obtain ⟨cause, failed⟩ := quoteIdentifier_of_not_isQuotable unquotable
    exact ⟨cause, failed,
      (tableName_of_not_isQuotable unquotable).trans failed⟩
  · intro accepted
    have quotable : IsQuotable name := by
      apply not_not.mp
      rwa [not_isQuotable_iff]
    have own := quoteIdentifier_eq_ok_iff.mpr ⟨quotable, rfl⟩
    have table := tableName_eq_ok_iff.mpr ⟨quotable, rfl⟩
    refine ⟨_, _, own, readNames?_of_quoteIdentifier own, table, ?_⟩
    rw [readNames?_of_tableName table, tableNames_eq]
  · intro other text written same
    have names := (readNames?_of_quoteIdentifier written).symm.trans
      (readNames?_of_quoteIdentifier same)
    exact List.head_eq_of_cons_eq (Option.some.inj names)
  · intro other text written same
    have names := (readNames?_of_tableName written).symm.trans
      (readNames?_of_tableName same)
    exact tableNames_injective (Option.some.inj names)

/-- A qualified name is read as its parts.  One that holds two quotes with a
dot between them stays one name, and is not written like the qualified name
with the same parts. -/
theorem quoting_readNames?_marks :
    let quoting := Dialect.postgres.quoting
    (∃ text, quoting.tableName "public.authors" = .ok text ∧
      text = "\"public\".\"authors\"" ∧
      readNames? text.toList = some ["public", "authors"]) ∧
    ∃ text, quoting.tableName "a\".\"b" = .ok text ∧
      readNames? text.toList = some ["a\".\"b"] ∧
      quoting.tableName "a.b" ≠ .ok text := by
  intro quoting
  constructor
  · have laws := quoting_readNames? "public.authors"
    obtain ⟨_, table, _, _, written, read⟩ := laws.2.1 (by decide)
    have known : quoting.tableName "public.authors" =
        .ok "\"public\".\"authors\"" := rfl
    exact ⟨table, written, Except.ok.inj (written.symm.trans known), read⟩
  · have laws := quoting_readNames? "a\".\"b"
    obtain ⟨_, table, _, _, written, read⟩ := laws.2.1 (by decide)
    refine ⟨table, written, read, ?_⟩
    intro same
    exact absurd (laws.2.2.2 "a.b" table written same) (by decide)

end SqlExpr
