/-!
# Why a declaration yields no schema

The causes for which a declaration is refused, and the message of each.
-/

namespace SqlExpr.Schema

/-- Why a declaration yields no schema. -/
inductive SchemaError where
  | unknownTableSetting
  | unknownFieldSetting
  | emptyTableName
  | invalidTableName
  | emptyColumn
  | invalidColumn
  | skippedKey
  | secondKey
  | notNamedFields
  | notStruct
  /-- An attribute of a path alone. -/
  | noSettings
  /-- An attribute of a path and a value. -/
  | noParentheses
  /-- Nothing in the place of a key, where an attribute ends. -/
  | missingKey
  /-- A string, a character or a number in the place of a key. -/
  | literalKey
  /-- A mark in the place of a key. -/
  | markKey
  /-- A key that ends with two colons, where an attribute ends. -/
  | unfinishedKey
  /-- A key in which something else than a name follows two colons. -/
  | brokenKey
  /-- No equals sign after a key that needs a value. -/
  | missingEquals
  /-- No value after an equals sign, where an attribute ends. -/
  | missingText
  /-- A value that is not a string. -/
  | notText
  /-- Something else than a comma after an entry. -/
  | missingComma
  deriving DecidableEq, Repr

def SchemaError.message : SchemaError → String
  | unknownTableSetting =>
    "unknown table attribute; expected `name = \"...\"`"
  | unknownFieldSetting =>
    "unknown field attribute; expected `id`, `skip` or `column = \"...\"`"
  | emptyTableName => "table name must not be empty"
  | invalidTableName =>
    "table name must be `table` or `schema.table` with identifiers matching " ++
      "[A-Za-z_][A-Za-z0-9_]*"
  | emptyColumn => "column must not be empty"
  | invalidColumn =>
    "column must be a valid SQL identifier (expected [A-Za-z_][A-Za-z0-9_]*)"
  | skippedKey => "primary key field cannot be skipped"
  | secondKey => "only one field can be marked #[table(id)]"
  | notNamedFields =>
    "Table can only be derived for structs with named fields"
  | notStruct => "Table can only be derived for structs"
  | noSettings =>
    "expected attribute arguments in parentheses: #[table(...)]"
  | noParentheses => "expected parentheses: #[table(...)]"
  | missingKey => "unexpected end of input, expected nested attribute"
  | literalKey => "unexpected literal in nested attribute, expected ident"
  | markKey => "unexpected token in nested attribute, expected ident"
  | unfinishedKey => "unexpected end of input, expected ident"
  | brokenKey => "expected ident"
  | missingEquals => "expected `=`"
  | missingText => "unexpected end of input, expected string literal"
  | notText => "expected string literal"
  | missingComma => "expected `,`"

/-- A result, or the reason why a declaration yields none. -/
abbrev SchemaResult (α : Type) := Except SchemaError α

end SqlExpr.Schema
