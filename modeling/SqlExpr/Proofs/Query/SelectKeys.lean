import SqlExpr.Proofs.Lexis.Names
import SqlExpr.Proofs.Name.Reading
import SqlExpr.Proofs.Output.Operand
import SqlExpr.Proofs.Query.Subquery

/-!
# Keys selected from a table

A selection of keys names each of them bare and the table in quotes.  Keys are
qualified names, in which no comma, blank or quote stands, so the tokens of a
selection tell which keys and which table it was made of, also where a key is
called like a keyword and where the name of the table looks like more of the
selection.
-/

namespace SqlExpr

open SqlExpr.Lexis SqlExpr.Name SqlExpr.Text

namespace Lexis

/-! ## Reading selections -/

def Token.word? : Token → Option String
  | .word held => some held
  | _ => none

def Token.name? : Token → Option String
  | .name held => some held
  | _ => none

/-- Items with a mark between neighbours, and the tokens behind the last
item. -/
def readRow? (item? : Token → Option String) (mark : Char) :
    List Token → Option (List String × List Token)
  | [] => none
  | [token] => (item? token).map fun item => ([item], [])
  | token :: next :: rest => do
    let item ← item? token
    if next = .mark mark then
      let (items, behind) ← readRow? item? mark rest
      return (item :: items, behind)
    else return ([item], next :: rest)

/-- The keys and the parts of the table's name in a selection: `SELECT`, bare
names with commas between them, `FROM`, and quoted names with points between
them. -/
def readSelection? (sql : String) : Option (List String × List String) := do
  let tokens ← scan sql
  let rest ← [Token.word "SELECT"].isPrefixOf? tokens
  let (keys, rest) ← readRow? Token.word? ',' rest
  let rest ← [Token.word "FROM"].isPrefixOf? rest
  let (parts, rest) ← readRow? Token.name? '.' rest
  if rest.isEmpty then return (keys, parts) else none

section

variable {item? : Token → Option String} {token : String → Token}
  {mark : Char} {rest : List Token} {keys names : List String}

theorem readRow?_intersperse {items : List String}
    (known : ∀ item, item? (token item) = some item) (nonempty : items ≠ [])
    (stops : rest.head? ≠ some (.mark mark)) :
    readRow? item? mark ((items.map token).intersperse (.mark mark) ++ rest) =
      some (items, rest) := by
  obtain ⟨item, items, rfl⟩ := List.exists_cons_of_ne_nil nonempty
  clear nonempty
  induction items generalizing item with
  | nil =>
      cases rest with
      | nil => simp [readRow?, known]
      | cons next rest =>
          have other : next ≠ .mark mark := by simpa using stops
          simp [readRow?, known, other]
  | cons next items induction =>
      have row : ((item :: next :: items).map token).intersperse
          (.mark mark) ++ rest = token item :: .mark mark ::
            (((next :: items).map token).intersperse (.mark mark) ++ rest) :=
        rfl
      rw [row, readRow?, known, induction]
      simp

theorem reads_keys {key : String}
    (qualified : ∀ own ∈ key :: keys, IsQualified own) :
    Reads (joinWith ", " (key :: keys)).toList
      (((key :: keys).map Token.word).intersperse (.mark ',')) := by
  induction keys generalizing key with
  | nil =>
      obtain ⟨parts, known⟩ :=
        isQualified_iff.mp (qualified key List.mem_cons_self)
      exact reads_qualifiedName known
  | cons next keys induction =>
      rw [List.forall_mem_cons] at qualified
      obtain ⟨parts, known⟩ := isQualified_iff.mp qualified.1
      have comma : Completes ", ".toList [.mark ','] := rfl
      have front := (reads_qualifiedName known).append_completes
        (by decide) (by decide) comma
      have whole := front.append_reads (induction qualified.2)
      simpa [joinWith] using whole

/-- The tokens of a selection. -/
theorem scan_selection (keyed : keys ≠ [])
    (qualified : ∀ key ∈ keys, IsQualified key) (named : names ≠ []) :
    scan ("SELECT " ++ joinWith ", " keys ++ " FROM " ++
        joinWith "." (names.map (quoted '"'))) =
      some (.word "SELECT" :: ((keys.map Token.word).intersperse (.mark ',') ++
        .word "FROM" :: (names.map Token.name).intersperse (.mark '.'))) := by
  obtain ⟨key, keys, rfl⟩ := List.exists_cons_of_ne_nil keyed
  obtain ⟨name, names, rfl⟩ := List.exists_cons_of_ne_nil named
  have select : Completes "SELECT ".toList [.word "SELECT"] := rfl
  have source : Completes " FROM ".toList [.word "FROM"] := rfl
  have front := select.append ((reads_keys qualified).append_completes
    (by decide) (by decide) source)
  have whole := front.append_reads (reads_quotedNames name names)
  rw [scan, String.toList_append, String.toList_append, String.toList_append,
    List.append_assoc "SELECT ".toList, whole.scanChars_eq]
  simp

theorem readSelection?_selection (keyed : keys ≠ [])
    (qualified : ∀ key ∈ keys, IsQualified key) (named : names ≠ []) :
    readSelection? ("SELECT " ++ joinWith ", " keys ++ " FROM " ++
        joinWith "." (names.map (quoted '"'))) = some (keys, names) := by
  have keyRow : readRow? Token.word? ','
      ((keys.map Token.word).intersperse (.mark ',') ++ .word "FROM" ::
        (names.map Token.name).intersperse (.mark '.')) =
      some (keys, .word "FROM" ::
        (names.map Token.name).intersperse (.mark '.')) :=
    readRow?_intersperse (fun _ => rfl) keyed (by simp)
  have nameRow : readRow? Token.name? '.'
      ((names.map Token.name).intersperse (.mark '.') ++ []) =
      some (names, []) :=
    readRow?_intersperse (fun _ => rfl) named (by simp)
  rw [List.append_nil] at nameRow
  rw [readSelection?, scan_selection keyed qualified named]
  simp [List.isPrefixOf?, keyRow, nameRow]

end

end Lexis

theorem Config.render_raw (config : Config) (sql : String) :
    config.render (.raw sql) = .ok sql := by
  rw [render, rendering, renderAt, place_free]
  rfl

namespace Scope

variable {scope : Scope} {keys : List String} {table : String} {node : Node}

theorem find?_unqualified_eq_none_iff :
    (keys.find? fun key => (qualifiedParts? key).isNone) = none ↔
      ∀ key ∈ keys, IsQualified key := by
  simp only [List.find?_eq_none, isQualified_iff, ← Option.isSome_iff_exists,
    Bool.not_eq_true, Option.isNone_eq_false_iff]

/-- A selection is made exactly of qualified keys, at least one, and of a table
whose name can be quoted. -/
theorem selectKeys_eq_ok_iff (plain : scope.quoting? = none) :
    scope.selectKeys keys table = .ok node ↔
      keys ≠ [] ∧ (∀ key ∈ keys, IsQualified key) ∧ IsQuotable table ∧
        node = .raw ("SELECT " ++ joinWith ", " keys ++ " FROM " ++
          joinWith "." ((tableNames table).map (quoted '"'))) := by
  unfold selectKeys
  rw [quoting_eq plain, ← find?_unqualified_eq_none_iff]
  cases keyed : keys.isEmpty with
  | true =>
      rw [List.isEmpty_iff] at keyed
      exact iff_of_false nofun fun made => made.1 keyed
  | false =>
      have nonempty : keys ≠ [] := List.isEmpty_eq_false_iff.mp keyed
      cases keys.find? fun key => (qualifiedParts? key).isNone with
      | some key =>
          exact iff_of_false nofun fun made => nomatch made.2.1
      | none =>
          cases written : Dialect.postgres.quoting.tableName table with
          | error error =>
              refine iff_of_false nofun fun made => ?_
              rw [tableName_eq_ok_iff.mpr ⟨made.2.2.1, rfl⟩] at written
              cases written
          | ok text =>
              obtain ⟨quotable, rfl⟩ := tableName_eq_ok_iff.mp written
              constructor
              · intro made
                cases made
                exact ⟨nonempty, rfl, quotable, rfl⟩
              · rintro ⟨-, -, -, rfl⟩
                rfl

/-- The text of a selection is read as the selection that it is. -/
theorem exists_raw_of_selectKeys (plain : scope.quoting? = none)
    (made : scope.selectKeys keys table = .ok node) :
    ∃ sql, node = .raw sql ∧
      readSelection? sql = some (keys, tableNames table) := by
  obtain ⟨keyed, qualified, -, rfl⟩ := (selectKeys_eq_ok_iff plain).mp made
  exact ⟨_, rfl, readSelection?_selection keyed qualified
    (tableNames_ne_nil table)⟩

/-- A selection is made exactly of at least one key, of keys that are plain
parts with dots between them, and of a table whose name is neither empty nor
has a NUL character.  All of its text is read as a selection of these keys, in
their order, and of the pieces of the table's name between its dots if all of
them are plain, and else of that name; and it is the text of no other
selection. -/
theorem selectKeys_readSelection? (plain : scope.quoting? = none)
    (keys : List String) (table : String) :
    ((∃ node, scope.selectKeys keys table = .ok node) ↔
      keys ≠ [] ∧ (∀ key ∈ keys, IsQualified key) ∧
        table ≠ "" ∧ '\x00' ∉ table.toList) ∧
    ∀ node, scope.selectKeys keys table = .ok node →
      ∃ sql, scope.config.render node = .ok sql ∧
        readSelection? sql = some (keys,
          if ∀ part ∈ pieces '.' table, isPlain part then pieces '.' table
          else [table]) ∧
        ∀ otherKeys otherTable other,
          scope.selectKeys otherKeys otherTable = .ok other →
          scope.config.render other = .ok sql →
            otherKeys = keys ∧ otherTable = table := by
  constructor
  · simp only [selectKeys_eq_ok_iff plain, IsQuotable, hasNul_eq_false_iff,
      exists_and_left, exists_eq, and_true]
  · intro node made
    obtain ⟨sql, rfl, read⟩ := exists_raw_of_selectKeys plain made
    have parts := congrArg (fun names => some (keys, names))
      (tableNames_eq table)
    refine ⟨sql, scope.config.render_raw sql, read.trans parts, ?_⟩
    intro otherKeys otherTable other otherMade same
    obtain ⟨text, rfl, otherRead⟩ := exists_raw_of_selectKeys plain otherMade
    rw [Config.render_raw, Except.ok.injEq] at same
    subst same
    obtain ⟨sameKeys, names⟩ :=
      Prod.mk.inj (Option.some.inj (otherRead.symm.trans read))
    exact ⟨sameKeys, tableNames_injective names⟩

/-- The name of a table with dots is read as its parts.  A key may be called
`FROM`, and the name of a table may look like the end of one table and the
beginning of another. -/
theorem selectKeys_readSelection?_marks :
    let noon : Calendar.Timestamp :=
      ⟨⟨2024, 3, 15, by decide⟩, ⟨12, 0, 0, 0, by decide⟩⟩
    let scope : Scope := ⟨{ name := "articles" }, .postgres, none, noon⟩
    scope.quoting? = none ∧
    (∃ sql, sql = "SELECT id, name FROM \"public\".\"authors\"" ∧
      scope.selectKeys ["id", "name"] "public.authors" = .ok (.raw sql) ∧
      scope.config.render (.raw sql) = .ok sql ∧
      readSelection? sql = some (["id", "name"], ["public", "authors"])) ∧
    ∃ sql, sql = "SELECT FROM, t.id$1 FROM \"a\"\", b FROM \"\"c\"" ∧
      scope.selectKeys ["FROM", "t.id$1"] "a\", b FROM \"c" =
        .ok (.raw sql) ∧
      scope.config.render (.raw sql) = .ok sql ∧
      readSelection? sql = some (["FROM", "t.id$1"], ["a\", b FROM \"c"]) ∧
      ∀ keys, scope.selectKeys keys "a.c" ≠ .ok (.raw sql) := by
  intro noon scope
  refine ⟨rfl, ?_, ?_⟩
  · have made : scope.selectKeys ["id", "name"] "public.authors" =
        .ok (.raw "SELECT id, name FROM \"public\".\"authors\"") := rfl
    have laws := @selectKeys_readSelection? scope rfl ["id", "name"]
      "public.authors"
    obtain ⟨sql, rendered, read, -⟩ := laws.2 _ made
    obtain rfl := Except.ok.inj rendered
    exact ⟨_, rfl, made, rendered, read⟩
  · have made : scope.selectKeys ["FROM", "t.id$1"] "a\", b FROM \"c" =
        .ok (.raw "SELECT FROM, t.id$1 FROM \"a\"\", b FROM \"\"c\"") := rfl
    have laws := @selectKeys_readSelection? scope rfl ["FROM", "t.id$1"]
      "a\", b FROM \"c"
    obtain ⟨sql, rendered, read, only⟩ := laws.2 _ made
    obtain rfl := Except.ok.inj rendered
    refine ⟨_, rfl, made, rendered, read, ?_⟩
    intro keys same
    exact absurd (only keys "a.c" _ same rendered).2 (by decide)

end Scope

end SqlExpr
