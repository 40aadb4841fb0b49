import SqlExpr.Config.Basic
import SqlExpr.Toml.Document

/-!
# Configurations in files

A configuration may be given as a TOML text with a table `renderer`:

    [renderer]
    dialect = "postgres"
    boolean_style = "keyword"   # or "numeric"
    extensions = ["array", "json"]

Each setting has a default.  Other settings in the table are refused.  Other
tables say nothing, but no number in them may be too large for its format.
-/

namespace SqlExpr

open SqlExpr.Toml

/-- The settings of a configuration file. -/
structure FileSettings where
  dialect : Dialect := .postgres
  booleanStyle : BooleanStyle := .keyword
  extensions : List Extension := [.array, .json]

namespace FileSettings

/-- The word that an item chooses: a string, or the key of a table whose only
member is empty. -/
def choice? : Item → Option String
  | .string text => some text
  | .table _ [(key, .table _ [])] => some key
  | .table _ [(key, .array [])] => some key
  | _ => none

/-- The items of an array. -/
def items? : Item → Option (List Item)
  | .array items => some items
  | .tables elements => some (elements.map (.table .header))
  | _ => none

def dialect? (item : Item) : Option Dialect :=
  match choice? item with
  | some "postgres" => some .postgres
  | _ => none

def booleanStyle? (item : Item) : Option BooleanStyle :=
  match choice? item with
  | some "keyword" => some .keyword
  | some "numeric" => some .numeric
  | _ => none

def extension? (item : Item) : Option Extension :=
  match choice? item with
  | some "array" => some .array
  | some "json" => some .json
  | _ => none

/-- Change the setting with the given name. -/
def set (settings : FileSettings) (name : String) (item : Item) :
    Option FileSettings :=
  match name with
  | "dialect" => do return { settings with dialect := ← dialect? item }
  | "boolean_style" => do
    return { settings with booleanStyle := ← booleanStyle? item }
  | "extensions" => do
    return { settings with extensions := ← (← items? item).mapM extension? }
  | _ => none

/-- The names of the settings, in the order in which an array gives them. -/
def names : List String := ["dialect", "boolean_style", "extensions"]

/-- The settings that an item gives, by name or in order. -/
def ofItem? (item : Item) : Option FileSettings :=
  match item with
  | .table _ members =>
    members.foldlM (fun settings (name, item) => settings.set name item) {}
  | item => do
    (names.zip (← items? item)).foldlM
      (fun settings (name, item) => settings.set name item) {}

/-- The settings of a document; without a table `renderer` they are the default
ones. -/
def ofMembers? (members : Members) : Option FileSettings := do
  if !membersInRange (members.filter (·.1 ≠ "renderer")) then none
  match members.lookup "renderer" with
  | some item => ofItem? item
  | none => return {}

/-- The settings of a file. -/
def read? (text : String) : Option FileSettings := do
  ofMembers? (← Toml.read? text)

/-- The configuration with the given settings. -/
def config (settings : FileSettings) : ExprResult Config :=
  let builder : ConfigBuilder := {}
  let builder := builder.setDialect settings.dialect
  let builder := builder.setBooleanStyle settings.booleanStyle
  (settings.extensions.foldl ConfigBuilder.addExtension builder).build

end FileSettings

/-- The configuration that a TOML text describes, if it describes one. -/
def Config.ofToml? (text : String) : Option Config := do
  (← FileSettings.read? text).config.toOption

end SqlExpr
