import SqlExpr.Node.Predicate
import SqlExpr.Proofs.Grammar.Grouping

/-!
# Reading renderings back

What is written for an expression can be read back: its text has the tokens of
the term that it is written as, and the reader takes these apart again.  What
is read is the expression itself, up to parentheses and to the order in which
chains, sums and products are put together.
-/

namespace SqlExpr

open SqlExpr.Grammar SqlExpr.Lexis

namespace Config

variable {table : OperatorTable} {config : Config} {node : Node}

/-- A node whose form is known and that is not cast. -/
def IsLegible (config : Config) (node : Node) : Prop :=
  config.IsLexical node ∧
    ∀ value sqlType, node ≠ .literal value (some sqlType)

theorem all_isLegible (describes : table.Describes config)
    (expression : node.IsExpression table) : node.All config.IsLegible := by
  have core {kind : String} {operator : BinaryOperator} {left right : Node}
      (named : BinaryOperator.ofKind? kind = some operator) :
      config.IsLegible (.binary kind left right) := by
    refine ⟨fun other => ?_, by simp⟩
    rw [named] at other
    cases other
  have inGroup {items : List Node}
      (all : ∀ item ∈ items, item.All config.IsLegible) :
      (Node.group (.list items)).All config.IsLegible :=
    Node.All.group.mpr ⟨⟨trivial, by simp⟩,
      Node.All.list.mpr ⟨⟨trivial, by simp⟩, all⟩⟩
  induction expression with
  | column table? name => simp [IsLegible, IsLexical]
  | literal value => simp [IsLegible, IsLexical]
  | @registered kind left right known _ _ leftAll rightAll =>
      obtain ⟨_, symbol, left?, right?, found, read⟩ :=
        describes.form _ (OperatorTable.token_registered known)
      have plain := describes.plain _ (OperatorTable.token_registered known)
      refine Node.All.binary.mpr ⟨⟨fun _ definition own => ?_, by simp⟩,
        leftAll, rightAll⟩
      rw [found] at own
      cases own
      exact ⟨_, read, .ofPlain (by simpa using plain)⟩
  | core named _ _ _ leftAll rightAll =>
      exact Node.All.binary.mpr ⟨core named, leftAll, rightAll⟩
  | between _ _ _ all lowAll highAll =>
      have between : BinaryOperator.ofKind? "BETWEEN" = some .between := rfl
      have and : BinaryOperator.ofKind? "AND" = some .and := rfl
      exact Node.All.binary.mpr ⟨core between, all,
        Node.All.binary.mpr ⟨core and, lowAll, highAll⟩⟩
  | inList _ _ _ all itemsAll =>
      have named : BinaryOperator.ofKind? "IN" = some .inList := rfl
      exact Node.All.binary.mpr ⟨core named, all, inGroup itemsAll⟩
  | notInList _ _ _ all itemsAll =>
      have named : BinaryOperator.ofKind? "NOT IN" = some .notInList := rfl
      exact Node.All.binary.mpr ⟨core named, all, inGroup itemsAll⟩
  | negation _ all =>
      refine Node.All.unary.mpr ⟨⟨fun other => ?_, by simp⟩, all⟩
      cases other
  | call name _ all => exact Node.All.call.mpr ⟨⟨trivial, by simp⟩, all⟩
  | caseWhen _ _ _ _ conditions results otherwise =>
      simp only [Node.All.caseWhen]
      refine ⟨⟨trivial, by simp⟩, fun branch member => ?_, otherwise⟩
      exact ⟨conditions branch member, results branch member⟩
  | group _ all => exact Node.All.group.mpr ⟨⟨trivial, by simp⟩, all⟩

/-- The text of an expression has the tokens of the term that it is written
as, and all that it is made of can be written. -/
theorem reads_tokens (describes : table.Describes config)
    (expression : node.IsExpression table) {text : String}
    (success : config.render node = .ok text) :
    Reads text.toList ((config.writtenAt .free node).tokens table) ∧
      ∀ part ∈ node.data, ∃ own, part.render config = .write own := by
  have all := all_isLegible describes expression
  have lexical : node.All config.IsLexical :=
    fun inner member => (all inner member).1
  have uncast : ∀ sqlType, .cast sqlType ∉ config.parts node := by
    intro sqlType member
    have datum := Rendering.mem_data_of_mem_parts lexical rfl member
    obtain ⟨value, inner⟩ := Node.mem_data_cast.mp datum
    exact (all _ inner).2 value sqlType rfl
  rw [render_eq_ok_iff] at success
  have read := (config.phraseAt .free node lexical).reads uncast success
  have tokens := (writesTerm describes expression).free
    (Rendering.part_eq_write success)
  rw [← tokens]
  exact ⟨read, Rendering.data_eq_write lexical success⟩

theorem scan_eq_tokens (describes : table.Describes config)
    (expression : node.IsExpression table) {text : String}
    (success : config.render node = .ok text) :
    scan text = some ((config.writtenAt .free node).tokens table) ∧
      ∀ part ∈ node.data, ∃ own, part.render config = .write own := by
  obtain ⟨read, written⟩ := reads_tokens describes expression success
  exact ⟨read.scanChars_eq, written⟩

/-- What is read from the text of an expression is the term that it is written
as, with its operators taken from left to right. -/
theorem read?_of_render (describes : table.Describes config)
    (expression : node.IsExpression table) {text : String}
    (success : config.render node = .ok text) :
    ∃ tokens, scan text = some tokens ∧
      table.read? tokens = some (config.writtenAt .free node).reading := by
  obtain ⟨scanned, written⟩ := scan_eq_tokens describes expression success
  have grouped := isGrouped_writtenAt describes expression written
    False.elim .free Position.connective_of_free
  exact ⟨_, scanned, OperatorTable.read?_tokens describes.toIsDistinct
    (fun _ _ => Term.IsJoined.isReadable) grouped⟩

theorem normal_reading_writtenAt (describes : table.Describes config)
    (expression : node.IsExpression table) {text : String}
    (success : config.render node = .ok text) (kept : node.KeepsQuotients) :
    (config.writtenAt .free node).reading.normal InfixOperator.isRegrouped =
      (config.term node).normal InfixOperator.isRegrouped := by
  obtain ⟨_, written⟩ := scan_eq_tokens describes expression success
  have grouped := isGrouped_writtenAt describes expression written
    (fun _ : True => kept) .free Position.connective_of_free
  rw [Term.normal_reading grouped, normal_writtenAt describes expression]

/-- The rendering of an expression can be read back.  What is read is the
expression, up to the spelling of `!=` and of comparisons with null, groups,
and the order in which chains of conditions, sums, differences behind a plus
and products are put together; unless a product with another one on its right
takes a quotient apart. -/
theorem exists_read?_render (describes : table.Describes config)
    (expression : node.IsExpression table) {text : String}
    (success : config.render node = .ok text) :
    ∃ tokens term, scan text = some tokens ∧
      table.read? tokens = some term ∧
        (node.KeepsQuotients →
          term.normal InfixOperator.isRegrouped =
            (config.term node).normal InfixOperator.isRegrouped) := by
  obtain ⟨tokens, scanned, read⟩ := read?_of_render describes expression success
  exact ⟨tokens, _, scanned, read,
    normal_reading_writtenAt describes expression success⟩

def jsonAccessors : OperatorTable where
  entries :=
    [ (Extension.getKind, .operator "->"),
      (Extension.getTextKind, .operator "->>"),
      (Extension.getPathKind, .operator "#>"),
      (Extension.getPathTextKind, .operator "#>>") ]

theorem jsonAccessors_describes : jsonAccessors.Describes postgres where
  injective := by decide
  plain := by decide
  other := by decide
  registered := by decide
  form := by
    simp only [jsonAccessors, List.forall_mem_cons, List.not_mem_nil]
    refine ⟨?_, ?_, ?_, ?_, fun _ => False.elim⟩
    all_goals
      exact ⟨rfl, _, _, _, rfl, _, _, _, rfl, rfl, rfl⟩

theorem exists_read?_render_accessor :
    ∃ tokens term,
      scan "\"a\" -> 'k' = (1 + 2) * 3 AND NOT (\"c\" IS NOT NULL)" =
          some tokens ∧
        jsonAccessors.read? tokens = some term ∧
          term.normal InfixOperator.isRegrouped =
            (postgres.term
              (.and
                (.eq (.binary "->" (.column none "a") (.text "k"))
                  (.binary "*" (.plus (.int 1) (.int 2)) (.int 3)))
                (.not (.notEq (.column none "c") .null)))).normal
              InfixOperator.isRegrouped := by
  have accessor : (Node.binary "->" (.column none "a") (.text "k")).IsExpression
      jsonAccessors :=
    .registered (by decide) (.column none "a") (.literal (.text "k"))
  have sum : (Node.plus (.int 1) (.int 2)).IsExpression jsonAccessors :=
    .core rfl (by decide) (.literal (.int 1)) (.literal (.int 2))
  have product : (Node.binary "*" (.plus (.int 1) (.int 2))
      (.int 3)).IsExpression jsonAccessors :=
    .core rfl (by decide) sum (.literal (.int 3))
  have missing : (Node.notEq (.column none "c") .null).IsExpression
      jsonAccessors :=
    .core rfl (by decide) (.column none "c") (.literal .null)
  have equality : (Node.eq (.binary "->" (.column none "a") (.text "k"))
      (.binary "*" (.plus (.int 1) (.int 2)) (.int 3))).IsExpression
        jsonAccessors :=
    .core rfl (by decide) accessor product
  have expression : (Node.and
      (.eq (.binary "->" (.column none "a") (.text "k"))
        (.binary "*" (.plus (.int 1) (.int 2)) (.int 3)))
      (.not (.notEq (.column none "c") .null))).IsExpression jsonAccessors :=
    .core rfl (by decide) equality (.negation missing)
  have success : postgres.render (.and
      (.eq (.binary "->" (.column none "a") (.text "k"))
        (.binary "*" (.plus (.int 1) (.int 2)) (.int 3)))
      (.not (.notEq (.column none "c") .null))) =
        .ok "\"a\" -> 'k' = (1 + 2) * 3 AND NOT (\"c\" IS NOT NULL)" :=
    rfl
  obtain ⟨tokens, term, scanned, read, same⟩ :=
    exists_read?_render jsonAccessors_describes expression success
  exact ⟨tokens, term, scanned, read, same (by decide)⟩

/-- A sum on the right of a sum is read from left to right. -/
theorem normal_ne_of_sum :
    (Node.plus (.int 1) (.plus (.int 2) (.int 3))).IsExpression
        jsonAccessors ∧
      postgres.render (.plus (.int 1) (.plus (.int 2) (.int 3))) =
        .ok "1 + 2 + 3" ∧
      ∃ tokens term, scan "1 + 2 + 3" = some tokens ∧
        jsonAccessors.read? tokens = some term ∧
          term.normal InfixOperator.isChained ≠
            (postgres.term
              (.plus (.int 1) (.plus (.int 2) (.int 3)))).normal
                InfixOperator.isChained := by
  refine ⟨?_, rfl,
    [.number "1", .operator "+", .number "2", .operator "+", .number "3"],
    .infixed (.core .plus)
      (.infixed (.core .plus) (.atom [.number "1"]) (.atom [.number "2"]))
      (.atom [.number "3"]), by decide, rfl, ?_⟩
  · exact .core rfl (by decide) (.literal (.int 1))
      (.core rfl (by decide) (.literal (.int 2)) (.literal (.int 3)))
  · intro same
    cases same

end Config

end SqlExpr
