import SqlExpr.Proofs.Output.Array
import SqlExpr.Proofs.Output.Sign

/-!
# Accessors that take a path

An accessor that takes a path makes a text array of it, as it is.  A text array
that is built as such has the lists among its items opened.  The two are the
same node exactly if there is no list in the path, and the same text exactly if
each item of the path is one node within lists of one item, or if the path is
one item with nothing in it.
-/

namespace SqlExpr

open SqlExpr.Extension

namespace Rendering

variable {first second third : Rendering} {text : String}

theorem append_right_inj (written : first.error? = none) :
    first ++ second = first ++ third ↔ second = third := by
  obtain ⟨before, rfl⟩ := exists_write_iff.mpr written
  constructor
  · intro same
    obtain ⟨own, error?⟩ := second
    obtain ⟨other, otherError?⟩ := third
    obtain ⟨texts, errors⟩ := Rendering.mk.inj same
    have sameText : own = other := (String.append_right_inj before).mp texts
    have sameError : error? = otherError? := errors
    rw [sameText, sameError]
  · intro same
    rw [same]

theorem append_left_inj (firstWritten : first.error? = none)
    (secondWritten : second.error? = none) :
    first ++ write text = second ++ write text ↔ first = second := by
  obtain ⟨own, rfl⟩ := exists_write_iff.mpr firstWritten
  obtain ⟨other, rfl⟩ := exists_write_iff.mpr secondWritten
  rw [write_append_write, write_append_write, write_injective.eq_iff,
    write_injective.eq_iff, String.append_left_inj]

end Rendering

/-- The accessors that take a path. -/
inductive PathAccessor where
  /-- `x #> path` -/
  | json
  /-- `x #>> path` -/
  | text
  deriving DecidableEq, Repr

namespace PathAccessor

open Config Rendering

variable (accessor : PathAccessor)

def kind : PathAccessor → String
  | json => getPathKind
  | text => getPathTextKind

def access (config : Config) : PathAccessor → Node → List Node →
    ExprResult Node
  | json => config.jsonGetPath
  | text => config.jsonGetPathText

/-- An accessor on a base and a text array of some items. -/
def node (base : Node) (items : List Node) : Node :=
  .binary accessor.kind base (.unary textArrayKind (.list items))

/-- A path becomes an array as it is. -/
theorem access_postgres (base : Node) (path : List Node) :
    accessor.access postgres base path = .ok (accessor.node base path) := by
  cases accessor <;> rfl

theorem textArray_postgres (items : List Node) :
    postgres.textArray items =
      .ok (.unary textArrayKind (.list (flattenAll items))) := rfl

theorem writesArrays_postgres :
    postgres.WritesArrays textArrayKind "]::text[]" := ⟨rfl, rfl⟩

theorem writesBetween_postgres :
    postgres.WritesBetween accessor.kind accessor.kind := by
  cases accessor <;> exact ⟨rfl, rfl⟩

/-- Whatever array an accessor has, all but the items is written alike. -/
theorem exists_renderAt_node (base : Node) :
    ∃ opening, ∀ items, postgres.renderAt .free (accessor.node base items) =
      opening ++ (join "," (postgres.renderAll items) ++
        .write "]::text[]") := by
  refine ⟨postgres.renderAt (.operand .other none false) base ++
    (.write (" " ++ accessor.kind ++ " ") ++ .write "ARRAY["), ?_⟩
  intro items
  have array : UnaryOperator.ofKind? textArrayKind = none := rfl
  have bare : Rendering.write
      (Position.operand .other none true).separator = .empty := rfl
  unfold node
  rw [renderAt_between accessor.writesBetween_postgres, renderAt_unary array,
    renderAt_array writesArrays_postgres, bare, empty_append, append_assoc,
    append_assoc]

theorem node_inj {base : Node} {items others : List Node} :
    accessor.node base items = accessor.node base others ↔
      items = others := by
  simp [node]

/-- Opening the lists in a path changes no error. -/
theorem error?_node_flattenAll (base : Node) (path : List Node) :
    (postgres.rendering (accessor.node base (flattenAll path))).error? =
      (postgres.rendering (accessor.node base path)).error? := by
  have standard := Registry.HasStandardForms.postgres
  rw [error?_rendering standard, error?_rendering standard]
  simp only [node, Node.checks, Node.checksOfAll_flattenAll]

/-- An accessor of a path that can be written has one text with the accessor of
its text array exactly if the lists in the path are written like what they are
opened to. -/
theorem rendering_node_flattenAll_iff {base : Node} {path : List Node}
    (written : (postgres.rendering (accessor.node base path)).error? = none) :
    postgres.rendering (accessor.node base (flattenAll path)) =
        postgres.rendering (accessor.node base path) ↔
      Node.WritesLikeOpened path := by
  have opened := accessor.error?_node_flattenAll base path
  rw [written] at opened
  obtain ⟨opening, text⟩ := accessor.exists_renderAt_node base
  unfold rendering at written opened ⊢
  rw [text, error?_append, error?_append, error?_write] at written opened
  simp only [Option.or_eq_none_iff, and_true] at written opened
  have items : ∀ rendering ∈ postgres.renderAll path,
      rendering.error? = none := by
    rw [error?_join] at written
    exact List.findSome?_eq_none_iff.mp written.2
  rw [text, text, append_right_inj written.1,
    append_left_inj opened.2 written.2]
  exact join_renderAll_flattenAll_iff Registry.HasStandardForms.postgres path
    items

/-- An accessor takes a path for the text array that is built of it exactly if
there is no list in the path.  Both always fail alike, and where they do not
fail they have the same text exactly if the lists in the path are written like
what they are opened to. -/
theorem access_eq_textArray_iff (base : Node) (path : List Node) :
    ∃ own array, accessor.access postgres base path = .ok own ∧
      postgres.textArray path = .ok array ∧
      (own = .binary accessor.kind base array ↔
        ∀ node ∈ path, node.isList = false) ∧
      (∀ error, postgres.render own = .error error ↔
        postgres.render (.binary accessor.kind base array) =
          .error error) ∧
      ∀ text, postgres.render own = .ok text →
        (postgres.render (.binary accessor.kind base array) = .ok text ↔
          Node.WritesLikeOpened path) := by
  refine ⟨accessor.node base path, _, accessor.access_postgres base path,
    textArray_postgres path, ?_, ?_, ?_⟩
  · rw [← Node.flattenAll_eq_self_iff]
    change accessor.node base path =
      accessor.node base (flattenAll path) ↔ _
    rw [node_inj, eq_comm]
  · intro error
    unfold render
    rw [result_eq_error_iff, result_eq_error_iff]
    change _ ↔ (postgres.rendering
      (accessor.node base (flattenAll path))).error? = some error
    rw [error?_node_flattenAll]
  · intro text success
    unfold render at success ⊢
    rw [result_eq_ok_iff] at success ⊢
    have written : (postgres.rendering
        (accessor.node base path)).error? = none := by
      rw [success]
      rfl
    rw [← success]
    exact accessor.rendering_node_flattenAll_iff written

/-- An empty list in a path leaves two commas with a blank between them, where
the text array has one comma. -/
theorem access_ne_textArray_of_empty_list :
    let base : Node := .column (some "t") "c"
    let path : List Node :=
      [.list [.text "a", .text "b"], .list [], .text "c"]
    ∃ own array, json.access postgres base path = .ok own ∧
      postgres.textArray path = .ok array ∧
      own ≠ .binary "#>" base array ∧
      postgres.render own =
        .ok "\"t\".\"c\" #> ARRAY['a', 'b',,'c']::text[]" ∧
      postgres.render (.binary "#>" base array) =
        .ok "\"t\".\"c\" #> ARRAY['a','b','c']::text[]" ∧
      ¬ Node.WritesLikeOpened path := by
  intro base path
  obtain ⟨own, array, accessed, built, same, -, texts⟩ :=
    json.access_eq_textArray_iff base path
  obtain rfl : json.node base path = own := Except.ok.inj accessed
  obtain rfl : Node.unary textArrayKind (.list (flattenAll path)) = array :=
    Except.ok.inj built
  have ownText : postgres.render (json.node base path) =
      .ok "\"t\".\"c\" #> ARRAY['a', 'b',,'c']::text[]" := rfl
  have arrayText : postgres.render (.binary "#>" base
      (.unary textArrayKind (.list (flattenAll path)))) =
      .ok "\"t\".\"c\" #> ARRAY['a','b','c']::text[]" := rfl
  refine ⟨_, _, accessed, built, ?_, ownText, arrayText, ?_⟩
  · intro one
    have plain := same.mp one (.list []) (by simp [path])
    cases plain
  · intro opened
    have equal := (texts _ ownText).mpr opened
    rw [show json.kind = "#>" from rfl, arrayText] at equal
    exact absurd (Except.ok.inj equal) (by decide)

end PathAccessor

end SqlExpr
