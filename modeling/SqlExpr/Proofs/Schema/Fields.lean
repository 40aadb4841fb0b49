import SqlExpr.Proofs.Schema.Settings

/-!
# Fields and their columns

A field that is read has a column unless it is left out.  Reading a field adds
its column to those of the fields before it, and the columns of a row of fields
are those of the fields that are not left out, in their order.
-/

namespace SqlExpr.Schema

open SqlExpr.Text

/-- The name that an entry gives to the column. -/
def FieldEntry.column? : FieldEntry → Option String
  | .column name => some name
  | _ => none

/-- The last name that is given to the column. -/
def lastColumn? (entries : List FieldEntry) : Option String :=
  (entries.filterMap FieldEntry.column?).getLast?

theorem foldl_take (entries : List FieldEntry) (settings : FieldSettings) :
    entries.foldl FieldSettings.take settings =
      { isKey := settings.isKey || entries.contains .key
        isSkipped := settings.isSkipped || entries.contains .skip
        column? := lastColumn? entries <|> settings.column? } := by
  induction entries generalizing settings with
  | nil => simp [lastColumn?]
  | cons entry entries induction =>
      rw [List.foldl_cons, induction]
      cases entry with
      | key => simp [FieldSettings.take, lastColumn?, FieldEntry.column?]
      | skip => simp [FieldSettings.take, lastColumn?, FieldEntry.column?]
      | column name =>
          simp [FieldSettings.take, lastColumn?, FieldEntry.column?,
            List.getLast?_cons]

/-- A field with all that its attributes say. -/
structure ReadField where
  field : Field
  entries : List FieldEntry
  said : SayEntries SpellsField field.attributes entries

namespace ReadField

def isKey (read : ReadField) : Bool := read.entries.contains .key

def isSkipped (read : ReadField) : Bool := read.entries.contains .skip

/-- The name of the field's column: the last one given, if there is one, and
otherwise that of the field. -/
def column (read : ReadField) : String :=
  (lastColumn? read.entries).getD (trim (unmarked read.field.name))

/-- The constant for the field's column. -/
def constant (read : ReadField) : String × String :=
  (constantName (unmarked read.field.name), read.column)

/-- A field that can have a column: it is not left out if it is the key, and it
has a name of SQL unless it is left out or one is given. -/
structure IsSound (read : ReadField) : Prop where
  kept : ¬ (read.isKey ∧ read.isSkipped)
  named : ¬ read.isSkipped → lastColumn? read.entries = none →
    IsSqlName (trim (unmarked read.field.name))

end ReadField

variable {field : Field} {settings : FieldSettings}

theorem settings_eq_ok_iff :
    field.settings = .ok settings ↔
      ∃ read : ReadField, read.field = field ∧
        ¬ (read.isKey ∧ read.isSkipped) ∧
        settings = ⟨read.isKey, read.isSkipped, lastColumn? read.entries⟩ := by
  have start (entries : List FieldEntry) :
      entries.foldl FieldSettings.take {} =
        ⟨entries.contains .key, entries.contains .skip,
          lastColumn? entries⟩ := by
    rw [foldl_take]
    simp
  constructor
  · intro success
    obtain ⟨known, read, checked⟩ := bind_eq_ok_iff.mp success
    obtain ⟨entries, said, rfl⟩ :=
      reads_readFieldEntry.readAttributes_eq_ok_iff.mp read
    dsimp only at checked
    rw [start] at checked
    split at checked
    next => cases checked
    next apart =>
      cases checked
      rw [Bool.and_eq_true] at apart
      exact ⟨⟨field, entries, said⟩, rfl, apart, rfl⟩
  · rintro ⟨⟨_, entries, said⟩, rfl, apart, rfl⟩
    have read := reads_readFieldEntry.readAttributes_eq_ok_iff.mpr
      ⟨entries, said, (start entries).symm⟩
    apply bind_eq_ok_iff.mpr
    refine ⟨_, read, ?_⟩
    dsimp only
    rw [if_neg (by rw [Bool.and_eq_true]; exact apart)]
    rfl

/-! ## Columns -/

/-- The columns after a further field. -/
def Columns.take (columns : Columns) (read : ReadField) : Columns :=
  if read.isSkipped then columns
  else
    { key? := if read.isKey then some read.column else columns.key?
      names := columns.names ++ [read.column]
      constants := columns.constants ++ [read.constant] }

variable {columns result : Columns}

/-- A field that is not left out has a column exactly if one is given or its own
name is a name of SQL. -/
theorem column_eq_ok_iff {read : ReadField} {column : String}
    (known : settings.column? = lastColumn? read.entries) :
    settings.column (unmarked read.field.name) = .ok column ↔
      column = read.column ∧ (lastColumn? read.entries = none →
        IsSqlName (trim (unmarked read.field.name))) := by
  unfold FieldSettings.column ReadField.column
  rw [known]
  cases lastColumn? read.entries with
  | none =>
      dsimp only
      rw [columnName_eq_ok_iff, Option.getD_none, imp_iff_right rfl]
  | some given => simp [eq_comm]

/-- A field is added exactly if it can have a column and is not a second key. -/
theorem add_eq_ok_iff :
    columns.add field = .ok result ↔
      ∃ read : ReadField, read.field = field ∧ read.IsSound ∧
        ¬ (read.isKey ∧ columns.key?.isSome) ∧ result = columns.take read := by
  constructor
  · intro success
    obtain ⟨settings, known, added⟩ := bind_eq_ok_iff.mp success
    obtain ⟨read, rfl, apart, rfl⟩ := settings_eq_ok_iff.mp known
    dsimp only at added
    refine ⟨read, rfl, ?_⟩
    split at added
    next skipped =>
      cases added
      refine ⟨⟨apart, fun kept => absurd skipped kept⟩, ?_, ?_⟩
      · rintro ⟨key, _⟩
        exact apart ⟨key, skipped⟩
      · rw [Columns.take, if_pos skipped]
    next kept =>
      obtain ⟨column, found, added⟩ := bind_eq_ok_iff.mp added
      obtain ⟨rfl, named⟩ := (column_eq_ok_iff rfl).mp found
      split at added
      next => cases added
      next single =>
        cases added
        rw [Bool.and_eq_true] at single
        refine ⟨⟨apart, fun _ => named⟩, single, ?_⟩
        rw [Columns.take, if_neg kept]
        rfl
  · rintro ⟨read, rfl, sound, single, rfl⟩
    apply bind_eq_ok_iff.mpr
    refine ⟨_, settings_eq_ok_iff.mpr ⟨read, rfl, sound.kept, rfl⟩, ?_⟩
    dsimp only
    by_cases skipped : read.isSkipped
    · rw [if_pos skipped, Columns.take, if_pos skipped]
      rfl
    · rw [if_neg skipped, Columns.take, if_neg skipped]
      apply bind_eq_ok_iff.mpr
      refine ⟨_, (column_eq_ok_iff rfl).mpr ⟨rfl, sound.named skipped⟩, ?_⟩
      rw [if_neg (by rw [Bool.and_eq_true]; exact single)]
      rfl

/-! ## Rows of fields -/

/-- The fields that are not left out. -/
def keptFields (reads : List ReadField) : List ReadField :=
  reads.filter (!·.isSkipped)

/-- The column of the key among some fields. -/
def keyColumn? (reads : List ReadField) : Option String :=
  (reads.find? (·.isKey)).map ReadField.column

theorem Columns.take_skipped {read : ReadField} (skipped : read.isSkipped) :
    columns.take read = columns := if_pos skipped

/-- The columns of a row of fields are those of the fields that are not left
out, in order. -/
theorem names_foldl_take (reads : List ReadField) (columns : Columns) :
    (reads.foldl Columns.take columns).names =
        columns.names ++ (keptFields reads).map ReadField.column ∧
      (reads.foldl Columns.take columns).constants =
        columns.constants ++ (keptFields reads).map ReadField.constant := by
  induction reads generalizing columns with
  | nil => simp [keptFields]
  | cons read reads induction =>
      rw [List.foldl_cons, (induction _).1, (induction _).2]
      unfold keptFields
      by_cases skipped : read.isSkipped
      · rw [Columns.take_skipped skipped,
          List.filter_cons_of_neg (by simp [skipped])]
        exact ⟨rfl, rfl⟩
      · rw [List.filter_cons_of_pos (by simp [skipped]), Columns.take,
          if_neg skipped]
        simp

/-- The number of keys among the columns so far. -/
def Columns.keyCount (columns : Columns) : Nat := columns.key?.toList.length

theorem Columns.keyCount_le (columns : Columns) : columns.keyCount ≤ 1 := by
  unfold keyCount
  cases columns.key? <;> simp

theorem Columns.keyCount_take {read : ReadField} (sound : read.IsSound)
    (single : ¬ (read.isKey ∧ columns.key?.isSome)) :
    (columns.take read).keyCount =
      columns.keyCount + if read.isKey then 1 else 0 := by
  unfold take keyCount
  by_cases key : read.isKey
  · have kept : ¬ read.isSkipped := fun skipped => sound.kept ⟨key, skipped⟩
    rw [if_neg kept, if_pos key, if_pos key]
    have none : columns.key? = none := by
      simpa [key] using single
    rw [none]
    rfl
  · by_cases skipped : read.isSkipped
    · simp [key, skipped]
    · simp [key, skipped]

/-- A row of fields is added exactly if each of them can have a column and no
more than one is the key. -/
theorem foldlM_add_eq_ok_iff {fields : List Field} :
    fields.foldlM Columns.add columns = .ok result ↔
      ∃ reads : List ReadField, reads.map ReadField.field = fields ∧
        (∀ read ∈ reads, read.IsSound) ∧
        columns.keyCount + reads.countP (·.isKey) ≤ 1 ∧
        result = reads.foldl Columns.take columns := by
  induction fields generalizing columns with
  | nil =>
      constructor
      · rintro ⟨⟩
        exact ⟨[], rfl, by simp, Columns.keyCount_le _, rfl⟩
      · rintro ⟨_ | _, split, _, _, rfl⟩
        · rfl
        · cases split
  | cons field fields induction =>
      rw [List.foldlM_cons, bind_eq_ok_iff]
      simp only [add_eq_ok_iff, induction]
      constructor
      · rintro ⟨_, ⟨read, rfl, sound, single, rfl⟩, reads, rfl, sounds, few,
          rfl⟩
        rw [Columns.keyCount_take sound single] at few
        refine ⟨read :: reads, rfl, List.forall_mem_cons.mpr ⟨sound, sounds⟩,
          ?_, rfl⟩
        rw [List.countP_cons]
        omega
      · rintro ⟨_ | ⟨read, reads⟩, split, sounds, few, rfl⟩
        · cases split
        · cases split
          rw [List.forall_mem_cons] at sounds
          rw [List.countP_cons] at few
          have single : ¬ (read.isKey ∧ columns.key?.isSome) := by
            rintro ⟨key, other⟩
            obtain ⟨column, known⟩ := Option.isSome_iff_exists.mp other
            rw [Columns.keyCount, known, if_pos key] at few
            simp only [Option.toList_some, List.length_singleton] at few
            omega
          refine ⟨_, ⟨read, rfl, sounds.1, single, rfl⟩, reads, rfl, sounds.2,
            ?_, rfl⟩
          rw [Columns.keyCount_take sounds.1 single]
          omega

/-- The primary key is the column of the one field that is the key. -/
theorem key?_foldl_take {reads : List ReadField}
    (sounds : ∀ read ∈ reads, read.IsSound)
    (few : reads.countP (·.isKey) ≤ 1) (columns : Columns) :
    (reads.foldl Columns.take columns).key? =
      (keyColumn? reads).or columns.key? := by
  induction reads generalizing columns with
  | nil => rfl
  | cons read reads induction =>
      rw [List.forall_mem_cons] at sounds
      rw [List.countP_cons] at few
      rw [List.foldl_cons, induction sounds.2 (by omega)]
      by_cases key : read.isKey
      · have others : reads.find? (·.isKey) = none := by
          rw [if_pos key] at few
          have none : reads.countP (·.isKey) = 0 := by omega
          exact List.find?_eq_none.mpr (List.countP_eq_zero.mp none)
        have kept : ¬ read.isSkipped := fun skipped =>
          sounds.1.kept ⟨key, skipped⟩
        simp [keyColumn?, others, key, Columns.take, kept]
      · have kept : (columns.take read).key? = columns.key? := by
          unfold Columns.take
          rw [if_neg key]
          split <;> rfl
        rw [kept]
        simp [keyColumn?, key]

end SqlExpr.Schema
