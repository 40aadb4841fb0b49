import SqlExpr.Proofs.Schema.Entries
import SqlExpr.Proofs.Schema.Names

/-!
# Entries of items and fields

An item may be given the name of its table.  A field may be the primary key, may
be left out, and may be given the name of its column.  These entries are read,
and no others.
-/

namespace SqlExpr.Schema

open SqlExpr.Text

/-! ## Parts of an entry -/

variable {tokens rest : List Token} {key : Key} {name value : String}

/-- Where an entry ends. -/
def EndsEntry (rest : List Token) : Prop :=
  rest = [] ∨ ∃ more, rest = comma :: more

theorem checkEnd_eq_ok_iff : checkEnd rest = .ok () ↔ EndsEntry rest := by
  unfold checkEnd EndsEntry
  split
  next => simp
  next more => simp
  next longer other =>
    constructor
    · intro success
      cases success
    · rintro (rfl | ⟨more, rfl⟩)
      · exact absurd rfl longer
      · exact absurd rfl (other more)

theorem readValue_eq_ok_iff :
    readValue tokens = .ok (value, rest) ↔
      tokens = .mark '=' :: .text value :: rest := by
  constructor
  · intro read
    unfold readValue at read
    split at read <;> cases read
    rfl
  · rintro rfl
    rfl

theorem eq_of_readNames (read : readNames tokens = .ok ([], rest)) :
    tokens = rest := by
  unfold readNames at read
  split at read
  next more =>
    obtain ⟨_, _, last⟩ := bind_eq_ok_iff.mp read
    cases last
  next => cases read
  next => cases read
  next =>
    cases read
    rfl

theorem eq_of_readKey (read : readKey tokens = .ok (key, rest))
    (own : key.isName name) : tokens = .name name :: rest := by
  unfold readKey at read
  split at read
  next more =>
    obtain ⟨_, _, last⟩ := bind_eq_ok_iff.mp read
    cases last
    cases own
  next =>
    obtain ⟨⟨names, left⟩, found, last⟩ := bind_eq_ok_iff.mp read
    cases last
    obtain rfl : names = [name] := by simpa [Key.isName] using own
    unfold readKeyNames at found
    split at found
    next first more =>
      obtain ⟨⟨others, left⟩, later, last⟩ := bind_eq_ok_iff.mp found
      cases last
      rw [eq_of_readNames later]
    all_goals cases found

theorem readKey_name (plain : rest.head? ≠ some .colons) (name : String) :
    readKey (.name name :: rest) = .ok (⟨false, [name]⟩, rest) := by
  have stop : readNames rest = .ok ([], rest) := by
    unfold readNames
    split
    · exact absurd rfl plain
    · exact absurd rfl plain
    · exact absurd rfl plain
    · rfl
  unfold readKey readKeyNames
  dsimp only
  rw [stop]
  rfl

theorem EndsEntry.head?_ne (ends : EndsEntry rest) :
    rest.head? ≠ some .colons := by
  obtain rfl | ⟨more, rfl⟩ := ends
  · simp
  · simp

/-! ## Entries of items -/

/-- The name of the table, as an entry of an item gives it. -/
inductive SpellsTable : List Token → String → Prop where
  | name {value : String} : IsTableName (trim value) →
      SpellsTable [.name "name", .mark '=', .text value] (trim value)

theorem readItemEntry_eq_ok_iff {state result : Option String} :
    readItemEntry state tokens = .ok result ↔
      ∃ own entry rest, tokens = own ++ rest ∧ SpellsTable own entry ∧
        EndsEntry rest ∧ result = some entry := by
  constructor
  · intro read
    unfold readItemEntry at read
    obtain ⟨⟨key, behind⟩, keyRead, read⟩ := bind_eq_ok_iff.mp read
    dsimp only at read
    split at read
    next own =>
      obtain ⟨⟨value, rest⟩, valueRead, read⟩ := bind_eq_ok_iff.mp read
      obtain ⟨name, accepted, read⟩ := bind_eq_ok_iff.mp read
      obtain ⟨_, ends, last⟩ := bind_eq_ok_iff.mp read
      obtain ⟨rfl, isName⟩ := tableName_eq_ok_iff.mp accepted
      cases last
      refine ⟨_, _, rest, ?_, .name isName, checkEnd_eq_ok_iff.mp ends, rfl⟩
      rw [eq_of_readKey keyRead own, readValue_eq_ok_iff.mp valueRead]
      rfl
    next => cases read
  · rintro ⟨_, _, rest, rfl, ⟨isName⟩, ends, rfl⟩
    have accepted := tableName_eq_ok_iff.mpr ⟨rfl, isName⟩
    have stop := checkEnd_eq_ok_iff.mpr ends
    apply bind_eq_ok_iff.mpr
    refine ⟨_, readKey_name (by simp) "name", ?_⟩
    dsimp only
    rw [if_pos (by rfl)]
    exact bind_eq_ok_iff.mpr ⟨_, rfl, bind_eq_ok_iff.mpr
      ⟨_, accepted, bind_eq_ok_iff.mpr ⟨_, stop, rfl⟩⟩⟩

/-- The attributes of an item are read by their entries; the last name that
they give to the table is kept. -/
theorem reads_readItemEntry :
    Reads SpellsTable readItemEntry fun _ name => some name where
  ne_nil := by
    rintro _ _ ⟨_⟩
    exact List.cons_ne_nil _ _
  comma_not_mem := by
    rintro _ _ ⟨_⟩
    simp
  unique := by
    rintro _ _ _ ⟨_⟩ ⟨_⟩
    rfl
  read_eq_ok_iff := readItemEntry_eq_ok_iff

/-! ## Entries of fields -/

/-- What an entry of a field says. -/
inductive FieldEntry where
  | key
  | skip
  | column (name : String)
  deriving DecidableEq

/-- The tokens of an entry of a field. -/
inductive SpellsField : List Token → FieldEntry → Prop where
  | key : SpellsField [.name "id"] .key
  | skip : SpellsField [.name "skip"] .skip
  | column {value : String} : IsSqlName (trim value) →
      SpellsField [.name "column", .mark '=', .text value]
        (.column (trim value))

/-- What is known of a field after a further entry. -/
def FieldSettings.take (settings : FieldSettings) :
    FieldEntry → FieldSettings
  | .key => { settings with isKey := true }
  | .skip => { settings with isSkipped := true }
  | .column name => { settings with column? := some name }

theorem readFieldEntry_eq_ok_iff {state result : FieldSettings} :
    readFieldEntry state tokens = .ok result ↔
      ∃ own entry rest, tokens = own ++ rest ∧ SpellsField own entry ∧
        EndsEntry rest ∧ result = state.take entry := by
  constructor
  · intro read
    unfold readFieldEntry at read
    obtain ⟨⟨key, behind⟩, keyRead, read⟩ := bind_eq_ok_iff.mp read
    dsimp only at read
    split at read
    next own =>
      obtain ⟨_, ends, last⟩ := bind_eq_ok_iff.mp read
      cases last
      refine ⟨_, _, behind, ?_, .key, checkEnd_eq_ok_iff.mp ends, rfl⟩
      exact eq_of_readKey keyRead own
    next =>
      split at read
      next own =>
        obtain ⟨_, ends, last⟩ := bind_eq_ok_iff.mp read
        cases last
        refine ⟨_, _, behind, ?_, .skip, checkEnd_eq_ok_iff.mp ends, rfl⟩
        exact eq_of_readKey keyRead own
      next =>
        split at read
        next own =>
          obtain ⟨⟨value, rest⟩, valueRead, read⟩ := bind_eq_ok_iff.mp read
          obtain ⟨name, accepted, read⟩ := bind_eq_ok_iff.mp read
          obtain ⟨_, ends, last⟩ := bind_eq_ok_iff.mp read
          obtain ⟨rfl, isName⟩ := columnName_eq_ok_iff.mp accepted
          cases last
          refine ⟨_, _, rest, ?_, .column isName, checkEnd_eq_ok_iff.mp ends,
            rfl⟩
          rw [eq_of_readKey keyRead own, readValue_eq_ok_iff.mp valueRead]
          rfl
        next => cases read
  · rintro ⟨_, _, rest, rfl, spelled, ends, rfl⟩
    have stop := checkEnd_eq_ok_iff.mpr ends
    apply bind_eq_ok_iff.mpr
    cases spelled with
    | key =>
        refine ⟨_, readKey_name ends.head?_ne "id", ?_⟩
        exact bind_eq_ok_iff.mpr ⟨_, stop, rfl⟩
    | skip =>
        refine ⟨_, readKey_name ends.head?_ne "skip", ?_⟩
        exact bind_eq_ok_iff.mpr ⟨_, stop, rfl⟩
    | column isName =>
        have accepted := columnName_eq_ok_iff.mpr ⟨rfl, isName⟩
        refine ⟨_, readKey_name (by simp) "column", ?_⟩
        exact bind_eq_ok_iff.mpr ⟨_, rfl, bind_eq_ok_iff.mpr
          ⟨_, accepted, bind_eq_ok_iff.mpr ⟨_, stop, rfl⟩⟩⟩

theorem SpellsField.unique {entry other : FieldEntry}
    (first : SpellsField tokens entry) (second : SpellsField tokens other) :
    entry = other := by
  generalize same : tokens = others at second
  cases first <;> cases second <;> simp at same
  · rfl
  · rfl
  · rw [same]

/-- The attributes of a field are read by their entries. -/
theorem reads_readFieldEntry :
    Reads SpellsField readFieldEntry FieldSettings.take where
  ne_nil := by
    rintro _ _ ⟨_⟩ <;> exact List.cons_ne_nil _ _
  comma_not_mem := by
    rintro _ _ ⟨_⟩ <;> simp
  unique := SpellsField.unique
  read_eq_ok_iff := readFieldEntry_eq_ok_iff

end SqlExpr.Schema
