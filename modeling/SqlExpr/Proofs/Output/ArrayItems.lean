import SqlExpr.Proofs.Node.Places
import SqlExpr.Proofs.Output.Array
import SqlExpr.Text.Pieces

/-!
# The items of an array

The arrays of the extension are made of the nodes that are no lists, in the
order in which they were given, and are written as the texts of these nodes
with commas between them.  How the nodes were put together in lists cannot be
seen from an array, and this is all that cannot be seen.
-/

namespace SqlExpr

open SqlExpr.Text

namespace Rendering

variable {renderings : List Rendering} {separator text : String}

/-- Renderings in a row have a text exactly if each of them has one, and it is
made of these. -/
theorem join_eq_write_iff :
    join separator renderings = write text ↔
      ∃ texts, renderings = texts.map write ∧
        text = joinWith separator texts := by
  constructor
  · intro success
    induction renderings generalizing text with
    | nil =>
        cases success
        exact ⟨[], rfl, rfl⟩
    | cons rendering rest induction =>
        cases rest with
        | nil =>
            obtain rfl : rendering = write text := success
            exact ⟨[text], rfl, rfl⟩
        | cons next rest =>
            obtain ⟨front, behind, first, others, rfl⟩ :=
              append_eq_write success
            obtain ⟨own, between, written, comma, rfl⟩ :=
              append_eq_write first
            obtain rfl := write_injective comma
            obtain ⟨texts, known, rfl⟩ := induction others
            refine ⟨own :: texts, by rw [written, known]; rfl, ?_⟩
            cases texts with
            | nil => cases known
            | cons second texts => rfl
  · rintro ⟨texts, rfl, rfl⟩
    induction texts with
    | nil => rfl
    | cons own texts induction =>
        cases texts with
        | nil => rfl
        | cons next texts =>
            have split : join separator ((own :: next :: texts).map write) =
                write own ++ write separator ++
                  join separator ((next :: texts).map write) := rfl
            rw [split, induction]
            rfl

theorem map_result_eq_ok_iff {texts : List String} :
    renderings.map result = texts.map .ok ↔
      renderings = texts.map write := by
  constructor
  · intro success
    induction renderings generalizing texts with
    | nil =>
        cases texts with
        | nil => rfl
        | cons own texts => cases success
    | cons rendering rest induction =>
        cases texts with
        | nil => cases success
        | cons own texts =>
            obtain ⟨first, others⟩ := List.cons.inj success
            rw [result_eq_ok_iff.mp first, induction others]
            rfl
  · rintro rfl
    rw [List.map_map]
    rfl

end Rendering

namespace Config

variable {config : Config} {kind close sql : String} {items : List Node}

/-- The operators of an extension have the definitions that it gives them. -/
def HasExtension (config : Config) (extension : Extension) : Prop :=
  ∀ entry ∈ extension.definitions,
    config.operators.get? entry.1 = some entry.2

/-- An array has a text exactly if each of its items has one, and is written as
these texts with commas between them. -/
theorem render_array_eq_ok_iff (arrays : config.WritesArrays kind close) :
    config.render (.unary kind (.list items)) = .ok sql ↔
      ∃ texts, items.map config.render = texts.map .ok ∧
        sql = "ARRAY[" ++ joinWith "," texts ++ close := by
  have each (texts : List String) : items.map config.render = texts.map .ok ↔
      config.renderAll items = texts.map .write := by
    rw [← Rendering.map_result_eq_ok_iff, renderAll_eq_map, List.map_map]
    rfl
  simp only [each]
  rw [render, Rendering.result_eq_ok_iff, rendering, renderAt_array arrays]
  constructor
  · intro success
    obtain ⟨opening, rest, first, later, rfl⟩ :=
      Rendering.append_eq_write success
    obtain ⟨inner, closing, own, last, rfl⟩ := Rendering.append_eq_write later
    obtain rfl := Rendering.write_injective first
    obtain rfl := Rendering.write_injective last
    obtain ⟨texts, known, rfl⟩ := Rendering.join_eq_write_iff.mp own
    exact ⟨texts, known, String.append_assoc.symm⟩
  · rintro ⟨texts, known, rfl⟩
    rw [Rendering.join_eq_write_iff.mpr ⟨texts, known, rfl⟩,
      String.append_assoc]
    rfl

end Config

/-- The operators that make arrays. -/
inductive ArrayOperator where
  /-- `ARRAY[…]` -/
  | plain
  /-- `ARRAY[…]::text[]` -/
  | text
  deriving DecidableEq, Repr

namespace ArrayOperator

open SqlExpr.Extension

def kind : ArrayOperator → String
  | plain => arrayKind
  | text => textArrayKind

def close : ArrayOperator → String
  | plain => "]"
  | text => "]::text[]"

/-- Make an array of some values. -/
def build (config : Config) : ArrayOperator → List Node → ExprResult Node
  | plain => config.array
  | text => config.textArray

variable {config : Config} (operator : ArrayOperator)

theorem get?_kind (arrays : config.HasExtension .array) :
    config.operators.get? operator.kind =
      some (arrayDefinition operator.close) := by
  cases operator with
  | plain => exact arrays _ (List.mem_cons_of_mem _ List.mem_cons_self)
  | text => exact arrays _ List.mem_cons_self

theorem writesArrays (arrays : config.HasExtension .array) :
    config.WritesArrays operator.kind operator.close := by
  constructor
  · cases operator <;> rfl
  · rw [Registry.form?, operator.get?_kind arrays]
    rfl

theorem build_eq (arrays : config.HasExtension .array) (values : List Node) :
    operator.build config values =
      .ok (.unary operator.kind (.list (flattenAll values))) := by
  have foreign := (operator.writesArrays arrays).1
  have known := operator.get?_kind arrays
  have made := Registry.unary_array foreign known (.many values)
  cases operator with
  | plain => exact made
  | text => exact made

theorem build_eq_build_iff (arrays : config.HasExtension .array)
    {values others : List Node} :
    operator.build config others = operator.build config values ↔
      Node.Regroups others values := by
  rw [operator.build_eq arrays, operator.build_eq arrays,
    ← Node.flattenAll_eq_iff]
  simp

/-- An array is made of the nodes among the values, at any depth of lists, that
are no lists, each of them once and from left to right.  It is the array of all
values that can be regrouped to these, also of its own items, and it is written
as the texts of its items with commas between them. -/
theorem build_keeps_items (arrays : config.HasExtension .array)
    (values : List Node) :
    ∃ items, operator.build config values =
        .ok (.unary operator.kind (.list items)) ∧
      (∀ item ∈ items, item.isList = false) ∧
      (∃ places, (Node.list values).LaysOut places items) ∧
      (∀ others, operator.build config others =
        operator.build config values ↔ Node.Regroups others values) ∧
      operator.build config items = operator.build config values ∧
      ∀ sql, config.render (.unary operator.kind (.list items)) = .ok sql ↔
        ∃ texts, items.map config.render = texts.map .ok ∧
          sql = "ARRAY[" ++ joinWith "," texts ++ operator.close := by
  refine ⟨flattenAll values, operator.build_eq arrays values, ?_, ?_, ?_, ?_,
    ?_⟩
  · exact fun item => Node.isList_of_mem_flattenAll values
  · exact ⟨_, Node.laysOut_flatten (.list values)⟩
  · exact fun others => operator.build_eq_build_iff arrays
  · rw [operator.build_eq_build_iff arrays]
    exact .symm _ _ (Node.regroups_flattenAll values)
  · exact fun sql =>
      Config.render_array_eq_ok_iff (operator.writesArrays arrays)

/-- Lists in lists and an empty list leave their items in order, and the same
array is made of the items in other lists. -/
theorem build_keeps_items_nested :
    let a := Node.text "a"
    let b := Node.column none "b"
    let one := Node.int 1
    let values := [.list [a, .list [.list [], b]], .list [one, a]]
    let others := [a, .list [b, one], a]
    ∃ items places, Config.postgres.HasExtension .array ∧
      text.build .postgres values = .ok (.unary "text_array" (.list items)) ∧
      items = [a, b, one, a] ∧
      (Node.list values).LaysOut places items ∧
      places = [[0, 0], [0, 1, 1], [1, 0], [1, 1]] ∧
      text.build .postgres others = text.build .postgres values ∧
      Config.postgres.render (.unary "text_array" (.list items)) =
        .ok "ARRAY['a',\"b\",1,'a']::text[]" := by
  intro a b one values others
  have arrays : Config.postgres.HasExtension .array :=
    List.forall_mem_cons.mpr ⟨rfl, List.forall_mem_cons.mpr
      ⟨rfl, List.forall_mem_nil _⟩⟩
  obtain ⟨items, built, -, ⟨places, laysOut⟩, regroup, -, written⟩ :=
    text.build_keeps_items arrays values
  have known : (Node.list values).LaysOut
      [[0, 0], [0, 1, 1], [1, 0], [1, 1]] [a, b, one, a] :=
    Node.laysOut_flatten (.list values)
  obtain ⟨rfl, rfl⟩ := known.unique laysOut
  have same := regroup others
  refine ⟨_, _, arrays, built, rfl, laysOut, rfl, same.mpr ?_, ?_⟩
  · exact Node.flattenAll_eq_iff.mp rfl
  · exact (written _).mpr ⟨["'a'", "\"b\"", "1", "'a'"], rfl, rfl⟩

end ArrayOperator

end SqlExpr
