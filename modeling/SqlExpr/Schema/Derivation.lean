import SqlExpr.Name
import SqlExpr.Schema.Declaration
import SqlExpr.Text.Pieces
import SqlExpr.Text.WordCase

/-!
# Schemas from declarations

The attributes of a declared item say how it is stored: the name of its table,
the columns of its fields, which field is the primary key and which fields are
left out.  A declaration that obeys the rules yields the schema of its table.
-/

namespace SqlExpr.Schema

open SqlExpr.Name SqlExpr.Text

/-- What a declaration says about its table. -/
structure TableSchema where
  tableName : String
  primaryKey : String
  columns : List String
  /-- Names for the table and its columns, with their values. -/
  constants : List (String × String)
  deriving DecidableEq, Repr

/-! ## Names -/

/-- Whether a text matches `[A-Za-z_][A-Za-z0-9_]*`. -/
def isSqlName (text : String) : Bool := isWord [] text

/-- A name without the mark that lets keywords be names. -/
def unmarked (name : String) : String :=
  match name.toList with
  | 'r' :: '#' :: rest => String.ofList rest
  | _ => name

/-- A table name given in an attribute: one name, or two joined by a dot. -/
def tableName (text : String) : SchemaResult String :=
  let name := trim text
  if name.isEmpty then .error .emptyTableName
  else if (pieces '.' name).all isSqlName && (pieces '.' name).length ≤ 2 then
    .ok name
  else .error .invalidTableName

/-- A column name, given in an attribute or by the field. -/
def columnName (text : String) : SchemaResult String :=
  let name := trim text
  if name.isEmpty then .error .emptyColumn
  else if isSqlName name then .ok name
  else .error .invalidColumn

/-- The plural of a name in lower case. -/
def plural (name : String) : String :=
  match name.toList.reverse with
  | 's' :: _ => name ++ "es"
  | 'y' :: stem =>
    match stem with
    | c :: _ =>
      if ['a', 'e', 'i', 'o', 'u'].contains c then name ++ "s"
      else String.ofList stem.reverse ++ "ies"
    | [] => "ies"
  | _ => name ++ "s"

/-- The table name of an item that is given none: its words in the plural. -/
def defaultTableName (name : String) : String :=
  plural (snakeCase (unmarked name))

/-! ## Entries -/

/-- Read an entry of an item's attribute: the name of its table. -/
def readItemEntry (_ : Option String) (entry : List Token) :
    SchemaResult (Option String) := do
  let (key, rest) ← readKey entry
  if key.isName "name" then
    let (value, rest) ← readValue rest
    let name ← tableName value
    checkEnd rest
    return some name
  else
    throw .unknownTableSetting

/-- What the attributes of a field say. -/
structure FieldSettings where
  isKey : Bool := false
  isSkipped : Bool := false
  column? : Option String := none
  deriving DecidableEq, Repr

/-- Read an entry of a field's attribute. -/
def readFieldEntry (settings : FieldSettings) (entry : List Token) :
    SchemaResult FieldSettings := do
  let (key, rest) ← readKey entry
  if key.isName "id" then
    checkEnd rest
    return { settings with isKey := true }
  else if key.isName "skip" then
    checkEnd rest
    return { settings with isSkipped := true }
  else if key.isName "column" then
    let (value, rest) ← readValue rest
    let column ← columnName value
    checkEnd rest
    return { settings with column? := some column }
  else
    throw .unknownFieldSetting

/-- All that the attributes of a field say; a key may not be left out. -/
def Field.settings (field : Field) : SchemaResult FieldSettings := do
  let settings ← readAttributes readFieldEntry {} field.attributes
  if settings.isKey && settings.isSkipped then throw .skippedKey
  return settings

/-- The column of a field: the one that is given, or else the name of the
field. -/
def FieldSettings.column (settings : FieldSettings) (name : String) :
    SchemaResult String :=
  match settings.column? with
  | some column => .ok column
  | none => columnName name

/-! ## Schemas -/

/-- The columns found so far, with their constants, and the primary key. -/
structure Columns where
  key? : Option String := none
  names : List String := []
  constants : List (String × String) := []
  deriving DecidableEq, Repr

/-- The name of the constant for a field. -/
def constantName (fieldName : String) : String :=
  "COL_" ++ shoutyCase fieldName

/-- Add the column of a field, unless the field is left out. -/
def Columns.add (columns : Columns) (field : Field) : SchemaResult Columns := do
  let settings ← field.settings
  if settings.isSkipped then return columns
  let name := unmarked field.name
  let column ← settings.column name
  if settings.isKey && columns.key?.isSome then throw .secondKey
  return {
    key? := if settings.isKey then some column else columns.key?
    names := columns.names ++ [column]
    constants := columns.constants ++ [(constantName name, column)] }

/-- Refuse every item without named fields. -/
def ItemKind.check : ItemKind → SchemaResult Unit
  | namedFields => .ok ()
  | tuple | unit => .error .notNamedFields
  | enumeration | overlay => .error .notStruct

/-- The schema that a declaration yields. -/
def Declaration.schema (declaration : Declaration) :
    SchemaResult TableSchema := do
  let name? ← readAttributes readItemEntry none declaration.attributes
  let tableName := name?.getD (defaultTableName declaration.name)
  declaration.kind.check
  let columns ← declaration.fields.foldlM Columns.add {}
  return {
    tableName
    primaryKey := columns.key?.getD "id"
    columns := columns.names
    constants := ("TABLE", tableName) :: columns.constants }

end SqlExpr.Schema
