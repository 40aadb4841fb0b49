import SqlExpr.Proofs.Schema.Declaration
import SqlExpr.Proofs.Schema.Fields

/-!
# Schemas and what declarations say

A declaration yields a schema exactly if all entries of its attributes are known
ones with valid values and agree with one another.  The schema then has the
columns of the fields that are not left out, a constant for each of them, and
the column of the key as its primary key.
-/

namespace SqlExpr.Schema

open SqlExpr.Text

variable {declaration : Declaration}

/-- All that the attributes of a declared item and of its fields say. -/
structure Reading (declaration : Declaration) where
  names : List String
  fields : List ReadField
  said : SayEntries SpellsTable declaration.attributes names
  listed : fields.map ReadField.field = declaration.fields

namespace Reading

/-- Each field can have a column, and no more than one is the key. -/
structure IsSound (reading : Reading declaration) : Prop where
  fields : ∀ read ∈ reading.fields, read.IsSound
  single : reading.fields.countP (·.isKey) ≤ 1

/-- The last name that is given to the table, or else the one that the name of
the item makes. -/
def tableName (reading : Reading declaration) : String :=
  reading.names.getLast?.getD (defaultTableName declaration.name)

/-- The schema that a declaration describes. -/
def schema (reading : Reading declaration) : TableSchema where
  tableName := reading.tableName
  primaryKey := (keyColumn? reading.fields).getD "id"
  columns := (keptFields reading.fields).map ReadField.column
  constants := ("TABLE", reading.tableName) ::
    (keptFields reading.fields).map ReadField.constant

theorem foldl_some (names : List String) (name? : Option String) :
    names.foldl (fun _ name => some name) name? = names.getLast?.or name? := by
  induction names generalizing name? with
  | nil => rfl
  | cons name names induction =>
      rw [List.foldl_cons, induction, List.getLast?_cons]
      cases names.getLast? <;> rfl

/-- The schema is what is made of the names and of the fields one by one. -/
theorem schema_eq_of_isSound {reading : Reading declaration}
    (sound : reading.IsSound) {name? : Option String} {columns : Columns}
    (named : name? = reading.names.foldl (fun _ name => some name) none)
    (added : columns = reading.fields.foldl Columns.take {}) :
    reading.schema =
      { tableName := name?.getD (defaultTableName declaration.name)
        primaryKey := columns.key?.getD "id"
        columns := columns.names
        constants :=
          ("TABLE", name?.getD (defaultTableName declaration.name)) ::
            columns.constants } := by
  rw [named, added, foldl_some, Option.or_none,
    key?_foldl_take sound.fields sound.single, Option.or_none,
    (names_foldl_take _ _).1, (names_foldl_take _ _).2]
  rfl

end Reading

theorem ReadField.field_injective : Function.Injective ReadField.field := by
  rintro ⟨field, entries, said⟩ ⟨_, others, otherSaid⟩ rfl
  cases reads_readFieldEntry.sayEntries_unique said otherSaid
  rfl

/-- A declaration can be read in one way only. -/
instance : Subsingleton (Reading declaration) where
  allEq := by
    rintro ⟨names, fields, said, listed⟩ ⟨others, reads, otherSaid, otherListed⟩
    cases reads_readItemEntry.sayEntries_unique said otherSaid
    cases List.map_injective_iff.mpr ReadField.field_injective
      (listed.trans otherListed.symm)
    rfl

theorem check_eq_ok_iff {kind : ItemKind} :
    kind.check = .ok () ↔ kind = .namedFields := by
  cases kind <;> simp [ItemKind.check]

/-- A declaration with named fields yields a schema exactly if it can be read
and is sound, and then the schema is the one that it describes. -/
theorem schema_eq_ok_iff {schema : TableSchema} :
    declaration.schema = .ok schema ↔
      declaration.kind = .namedFields ∧
        ∃ reading : Reading declaration, reading.IsSound ∧
          schema = reading.schema := by
  constructor
  · intro success
    obtain ⟨name?, named, success⟩ := bind_eq_ok_iff.mp success
    obtain ⟨_, checked, success⟩ := bind_eq_ok_iff.mp success
    obtain ⟨columns, added, success⟩ := bind_eq_ok_iff.mp success
    obtain ⟨names, said, rfl⟩ :=
      reads_readItemEntry.readAttributes_eq_ok_iff.mp named
    obtain ⟨reads, listed, sounds, few, rfl⟩ := foldlM_add_eq_ok_iff.mp added
    have none : ({} : Columns).keyCount = 0 := rfl
    rw [none, Nat.zero_add] at few
    have sound : (⟨names, reads, said, listed⟩ : Reading declaration).IsSound :=
      ⟨sounds, few⟩
    refine ⟨check_eq_ok_iff.mp checked, _, sound, ?_⟩
    cases success
    exact (Reading.schema_eq_of_isSound sound rfl rfl).symm
  · rintro ⟨named, reading, sound, rfl⟩
    have none : ({} : Columns).keyCount = 0 := rfl
    have few := sound.single
    rw [← Nat.zero_add (List.countP _ _), ← none] at few
    rw [Reading.schema_eq_of_isSound sound rfl rfl]
    exact bind_eq_ok_iff.mpr
      ⟨_, reads_readItemEntry.readAttributes_eq_ok_iff.mpr
        ⟨_, reading.said, rfl⟩, bind_eq_ok_iff.mpr
      ⟨_, check_eq_ok_iff.mpr named, bind_eq_ok_iff.mpr
      ⟨_, foldlM_add_eq_ok_iff.mpr
        ⟨_, reading.listed, sound.fields, few, rfl⟩, rfl⟩⟩⟩

/-! ## The schema and the declaration -/

namespace ReadField

variable {read : ReadField} {reads : List ReadField}

/-- The column that a field is said to have: the last one given, or else the
field's own name. -/
def saidColumn (read : ReadField) : String :=
  (lastColumn? read.entries).getD (unmarked read.field.name)

theorem column_of_isNamed (named : read.field.IsNamed) :
    read.column = read.saidColumn := by
  rw [column, named.trim_name, saidColumn]

/-- The names that entries give to columns are names of SQL. -/
theorem isSqlName_of_lastColumn? {name : String}
    (given : lastColumn? read.entries = some name) : IsSqlName name := by
  obtain ⟨entry, member, named⟩ :=
    List.mem_filterMap.mp (List.mem_of_getLast? given)
  obtain ⟨tokens, spelled⟩ := read.said.exists_spells member
  cases spelled with
  | key => cases named
  | skip => cases named
  | column isName =>
      cases named
      exact isName

theorem IsSound.isSqlName_column (sound : read.IsSound)
    (kept : ¬ read.isSkipped) : IsSqlName read.column := by
  unfold column
  cases given : lastColumn? read.entries with
  | none => exact sound.named kept given
  | some name => exact isSqlName_of_lastColumn? given

/-- The only key is found. -/
theorem find?_isKey (single : reads.countP (·.isKey) ≤ 1)
    (member : read ∈ reads) (key : read.isKey) :
    reads.find? (·.isKey) = some read := by
  induction reads with
  | nil => cases member
  | cons first reads induction =>
      rw [List.countP_cons] at single
      by_cases own : first.isKey
      · rw [if_pos own] at single
        have none : reads.countP (·.isKey) = 0 := by omega
        obtain rfl | later := List.mem_cons.mp member
        · exact List.find?_cons_of_pos own
        · exact absurd key (List.countP_eq_zero.mp none read later)
      · obtain rfl | later := List.mem_cons.mp member
        · exact absurd key own
        · rw [List.find?_cons_of_neg own]
          exact induction (by omega) later

end ReadField

namespace Reading

variable {reading : Reading declaration} {read : ReadField}

theorem isSqlName_of_mem_columns (sound : reading.IsSound) {column : String}
    (member : column ∈ reading.schema.columns) : IsSqlName column := by
  obtain ⟨read, inside, rfl⟩ := List.mem_map.mp member
  obtain ⟨known, kept⟩ := List.mem_filter.mp inside
  exact (sound.fields read known).isSqlName_column (by simpa using kept)

/-- The key has a column, which is the primary key. -/
theorem primaryKey_of_isKey (sound : reading.IsSound)
    (member : read ∈ reading.fields) (key : read.isKey) :
    reading.schema.primaryKey = read.column ∧
      read.column ∈ reading.schema.columns := by
  constructor
  · have found := ReadField.find?_isKey sound.single member key
    rw [schema, keyColumn?, found, Option.map_some, Option.getD_some]
  · apply List.mem_map_of_mem
    apply List.mem_filter.mpr ⟨member, ?_⟩
    have kept : ¬ read.isSkipped := fun skipped =>
      (sound.fields read member).kept ⟨key, skipped⟩
    simpa using kept

theorem primaryKey_of_no_key (none : ∀ read ∈ reading.fields, ¬ read.isKey) :
    reading.schema.primaryKey = "id" := by
  rw [schema, keyColumn?, List.find?_eq_none.mpr none, Option.map_none,
    Option.getD_none]

end Reading

/-- A declaration of named fields yields a schema exactly if all entries of its
attributes are known ones with valid values, no field is both the key and left
out, each field has a name of SQL that is neither left out nor given a column,
and no more than one field is the key.  The columns are those of the fields that
are not left out, in order, with a constant for each, and the primary key is
the column of the key, or `id` if there is none. -/
theorem schema_matches_declaration
    (hasFields : declaration.kind = .namedFields)
    (named : ∀ field ∈ declaration.fields, field.IsNamed) :
    ((∃ schema, declaration.schema = .ok schema) ↔
      ∃ reading : Reading declaration,
        (∀ read ∈ reading.fields, ¬ (read.isKey ∧ read.isSkipped)) ∧
        (∀ read ∈ reading.fields, ¬ read.isSkipped →
          lastColumn? read.entries = none →
            IsSqlName (unmarked read.field.name)) ∧
        reading.fields.countP (·.isKey) ≤ 1) ∧
    ∀ schema, declaration.schema = .ok schema →
      ∀ reading : Reading declaration,
        schema.columns =
          (keptFields reading.fields).map ReadField.saidColumn ∧
        schema.constants = ("TABLE", schema.tableName) ::
          (keptFields reading.fields).map (fun read =>
            ("COL_" ++ shoutyCase (unmarked read.field.name),
              read.saidColumn)) ∧
        (∀ column ∈ schema.columns, IsSqlName column) ∧
        (∀ read ∈ reading.fields, read.isKey →
          schema.primaryKey = read.saidColumn ∧
            schema.primaryKey ∈ schema.columns) ∧
        ((∀ read ∈ reading.fields, ¬ read.isKey) →
          schema.primaryKey = "id") := by
  have fieldNamed (reading : Reading declaration) {read : ReadField}
      (member : read ∈ reading.fields) : read.field.IsNamed := by
    apply named
    rw [← reading.listed]
    exact List.mem_map_of_mem member
  constructor
  · constructor
    · rintro ⟨schema, success⟩
      obtain ⟨_, reading, sound, _⟩ := schema_eq_ok_iff.mp success
      refine ⟨reading, ?_, ?_, sound.single⟩
      · intro read member
        exact (sound.fields read member).kept
      · intro read member kept none
        rw [← (fieldNamed reading member).trim_name]
        exact (sound.fields read member).named kept none
    · rintro ⟨reading, apart, own, single⟩
      have sound : reading.IsSound := by
        refine ⟨fun read member => ⟨apart read member, ?_⟩, single⟩
        rw [(fieldNamed reading member).trim_name]
        exact own read member
      exact ⟨reading.schema,
        schema_eq_ok_iff.mpr ⟨hasFields, reading, sound, rfl⟩⟩
  · intro schema success reading
    obtain ⟨_, other, sound, rfl⟩ := schema_eq_ok_iff.mp success
    cases Subsingleton.elim other reading
    have columns {read : ReadField} (member : read ∈ reading.fields) :
        read.column = read.saidColumn :=
      ReadField.column_of_isNamed (fieldNamed reading member)
    refine ⟨?_, ?_, ?_, ?_, ?_⟩
    · apply List.map_congr_left
      intro read member
      exact columns (List.mem_of_mem_filter member)
    · apply congrArg (List.cons _)
      apply List.map_congr_left
      intro read member
      rw [← columns (List.mem_of_mem_filter member)]
      rfl
    · intro column member
      exact Reading.isSqlName_of_mem_columns sound member
    · intro read member key
      obtain ⟨primary, inside⟩ :=
        Reading.primaryKey_of_isKey sound member key
      rw [primary, ← columns member]
      exact ⟨rfl, inside⟩
    · intro none
      exact Reading.primaryKey_of_no_key none

/-- An item with a field whose name is a keyword, and with two attributes for
that field. -/
def note : Declaration where
  kind := .namedFields
  name := "Note"
  attributes := []
  fields :=
    [⟨"r#type", [⟨[.name "table"], .list [.name "id"]⟩,
        ⟨[.name "table"],
          .list [.name "column", .mark '=', .text " kind "]⟩]⟩,
      ⟨"draft", [⟨[.name "table"], .list [.name "skip"]⟩]⟩,
      ⟨"title", []⟩]

theorem read?_note :
    Declaration.read? "struct Note \x7b
      #[table(id)] #[table(column = \" kind \")] r#type: i64,
      #[table(skip)] draft: bool,
      title: String
    \x7d" = some note := by
  decide +kernel

/-- What the attributes of the note say. -/
def noteReading : Reading note where
  names := []
  fields :=
    have kind : SpellsField [.name "column", .mark '=', .text " kind "]
        (.column (trim " kind ")) := .column (by decide)
    [⟨_, _, .table (.last .key) (.table (.last kind) .nil)⟩,
      ⟨_, _, .table (.last .skip) .nil⟩,
      ⟨⟨"title", []⟩, _, .nil⟩]
  said := .nil
  listed := rfl

/-- The column that a second attribute gives to the key is the primary key. -/
theorem schema_matches_declaration_note :
    note.kind = .namedFields ∧ (∀ field ∈ note.fields, field.IsNamed) ∧
      ∃ schema, note.schema = .ok schema ∧
        schema.columns = ["kind", "title"] ∧ schema.primaryKey = "kind" := by
  have hasFields : note.kind = .namedFields := rfl
  have named : ∀ field ∈ note.fields, field.IsNamed := fun _ member =>
    Declaration.isNamed_of_read? read?_note member
  obtain ⟨succeeds_iff, described⟩ := schema_matches_declaration hasFields named
  obtain ⟨schema, success⟩ := succeeds_iff.mpr
    ⟨noteReading, by decide, by decide, by decide⟩
  obtain ⟨columns, _, _, primary, _⟩ := described schema success noteReading
  refine ⟨hasFields, named, schema, success, ?_, ?_⟩
  · rw [columns]
    decide
  · obtain ⟨own, _⟩ := primary _ List.mem_cons_self (by decide)
    rw [own]
    decide

end SqlExpr.Schema
