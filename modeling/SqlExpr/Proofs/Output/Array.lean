import SqlExpr.Proofs.Node.Nesting
import SqlExpr.Proofs.Output.Failure
import SqlExpr.Proofs.Output.Operand

/-!
# The texts of lists and arrays

An array is written as its items with commas between them.  A list within it is
written with commas of its own, which have a blank behind them.  So opening the
lists changes the text by no more and no less than these commas, and the text
stays the same exactly if the lists are written like what they are opened to.
-/

namespace SqlExpr

namespace Rendering

variable {first second : Rendering} {separator : String}
  {renderings : List Rendering}

theorem text_append (written : first.error? = none) :
    (first ++ second).text = first.text ++ second.text := by
  obtain ⟨text, rfl⟩ := exists_write_iff.mpr written
  rfl

/-- The characters of several renderings. -/
def totalLength : List Rendering → Nat
  | [] => 0
  | rendering :: rest => rendering.text.length + totalLength rest

theorem totalLength_append (before behind : List Rendering) :
    totalLength (before ++ behind) =
      totalLength before + totalLength behind := by
  induction before with
  | nil => exact (Nat.zero_add _).symm
  | cons rendering rest induction =>
      rw [List.cons_append, totalLength, totalLength, induction, Nat.add_assoc]

theorem length_join
    (written : ∀ rendering ∈ renderings, rendering.error? = none) :
    (join separator renderings).text.length =
      totalLength renderings +
        separator.length * (renderings.length - 1) := by
  induction renderings with
  | nil => rfl
  | cons rendering rest induction =>
      obtain ⟨own, others⟩ := List.forall_mem_cons.mp written
      cases rest with
      | nil => simp [join, totalLength]
      | cons next rest =>
          have front : (rendering ++ write separator).error? = none := by
            rw [error?_append, own]
            rfl
          have tail := induction others
          have split : join separator (rendering :: next :: rest) =
              rendering ++ write separator ++ join separator (next :: rest) :=
            rfl
          have separated : (write separator).text.length = separator.length :=
            rfl
          rw [split, text_append front, text_append own, String.length_append,
            String.length_append, separated, tail]
          simp only [totalLength, List.length_cons, Nat.add_sub_cancel,
            Nat.mul_succ]
          omega

end Rendering

namespace Config

open SqlExpr.Extension Rendering

variable {config : Config} {kind symbol close : String} {base : Node}
  {items : List Node}

/-! ## The texts of lists -/

theorem renderAt_list (items : List Node) :
    config.renderAt .free (.list items) =
      join ", " (config.renderAll items) := by
  rw [renderAt, place_free]

theorem renderAll_eq_map (nodes : List Node) :
    config.renderAll nodes = nodes.map (config.renderAt .free) := by
  induction nodes with
  | nil => rfl
  | cons node nodes induction => rw [renderAll, induction, List.map_cons]

theorem renderAll_append (first second : List Node) :
    config.renderAll (first ++ second) =
      config.renderAll first ++ config.renderAll second := by
  simp only [renderAll_eq_map, List.map_append]

/-- A list of one item is written as the item. -/
theorem renderAt_unwrapped (node : Node) :
    config.renderAt .free node.unwrapped = config.renderAt .free node := by
  fun_induction Node.unwrapped node with
  | case1 item induction =>
      rw [induction, renderAt_list]
      rfl
  | case2 => rfl

/-- The characters that several nodes are written with. -/
def lengthOfAll (config : Config) (nodes : List Node) : Nat :=
  totalLength (config.renderAll nodes)

theorem lengthOfAll_append (first second : List Node) :
    config.lengthOfAll (first ++ second) =
      config.lengthOfAll first + config.lengthOfAll second := by
  unfold lengthOfAll
  rw [renderAll_append, totalLength_append]

mutual

/-- A list that is not opened has two characters more for each comma. -/
theorem length_renderAt : (node : Node) →
    (config.renderAt .free node).error? = none →
      (config.renderAt .free node).text.length =
        config.lengthOfAll (flatten node) + 2 * node.commas
  | .list items => by
      intro written
      rw [renderAt_list, error?_join, List.findSome?_eq_none_iff] at written
      have inner := length_renderAll items written
      have comma : ", ".length = 2 := rfl
      have length : (config.renderAll items).length = items.length := by
        rw [renderAll_eq_map, List.length_map]
      rw [renderAt_list, length_join written, length, comma, flatten,
        Node.commas]
      unfold lengthOfAll at inner ⊢
      omega
  | .column .. | .literal .. | .binary .. | .unary .. | .call ..
  | .caseWhen .. | .group _ | .aliased .. | .raw _ => by
      intro _
      rw [Node.flatten_of_not_isList rfl, Node.commas_of_not_isList rfl]
      rfl

theorem length_renderAll : (nodes : List Node) →
    (∀ rendering ∈ config.renderAll nodes, rendering.error? = none) →
      config.lengthOfAll nodes =
        config.lengthOfAll (flattenAll nodes) + 2 * Node.commasOfAll nodes
  | [] => fun _ => rfl
  | node :: nodes => by
      intro written
      obtain ⟨own, rest⟩ := List.forall_mem_cons.mp written
      have first := length_renderAt node own
      have others := length_renderAll nodes rest
      rw [flattenAll, lengthOfAll_append, Node.commasOfAll]
      change (config.renderAt .free node).text.length +
        config.lengthOfAll nodes = _
      omega

end

/-- Opening the lists among some nodes changes none of the errors. -/
theorem error?_renderAll_flattenAll
    (standard : config.operators.HasStandardForms) (nodes : List Node) :
    (config.renderAll (flattenAll nodes)).findSome? Rendering.error? =
      (config.renderAll nodes).findSome? Rendering.error? := by
  rw [error?_renderAll standard, error?_renderAll standard,
    Node.checksOfAll_flattenAll]

/-- Items with commas between them have the text of what they are opened to
exactly if they are written like it. -/
theorem join_renderAll_flattenAll_iff
    (standard : config.operators.HasStandardForms) (nodes : List Node)
    (written : ∀ rendering ∈ config.renderAll nodes,
      rendering.error? = none) :
    join "," (config.renderAll (flattenAll nodes)) =
        join "," (config.renderAll nodes) ↔
      Node.WritesLikeOpened nodes := by
  have opened : ∀ rendering ∈ config.renderAll (flattenAll nodes),
      rendering.error? = none := by
    have same := error?_renderAll_flattenAll standard nodes
    rw [List.findSome?_eq_none_iff.mpr written] at same
    exact List.findSome?_eq_none_iff.mp same
  constructor
  · intro same
    have lengths := congrArg (·.text.length) same
    have inner := length_renderAll nodes written
    have comma : ",".length = 1 := rfl
    have count (nodes : List Node) :
        (config.renderAll nodes).length = nodes.length := by
      rw [renderAll_eq_map, List.length_map]
    simp only [length_join written, length_join opened, count, comma]
      at lengths
    rw [Node.writesLikeOpened_iff]
    unfold lengthOfAll at inner
    omega
  · rintro (single | ⟨node, rfl, empty⟩)
    · rw [Node.flattenAll_of_unwrapped single, renderAll_eq_map,
        renderAll_eq_map, List.map_map]
      refine congrArg (join ",") (List.map_congr_left fun node _ => ?_)
      exact renderAt_unwrapped node
    · have flat : flattenAll [node] = [] := by
        rw [flattenAll, ← Node.flatten_unwrapped, empty]
        rfl
      have own := config.renderAt_unwrapped node
      rw [empty] at own
      change join "," (config.renderAll (flattenAll [node])) =
        config.renderAt .free node
      rw [flat, ← own]
      rfl

/-! ## Arrays -/

/-- The operator writes an array of its operand, closed by the text. -/
def WritesArrays (config : Config) (kind close : String) : Prop :=
  UnaryOperator.ofKind? kind = none ∧
    config.operators.form? kind = some (.template (arrayTemplate close))

theorem renderAt_array (arrays : config.WritesArrays kind close)
    (items : List Node) :
    config.renderAt .free (.unary kind (.list items)) =
      .write "ARRAY[" ++
        (join "," (config.renderAll items) ++ .write close) := by
  obtain ⟨definition, found, form⟩ := Registry.find_of_form?_eq_some arrays.2
  rw [renderAt.eq_def]
  simp only [place_free, arrays.1, found, form, Piece.renderAll, arrayTemplate,
    List.map_cons, List.map_nil, Piece.render, SinglePlace.fill, join,
    ← empty.eq_def, append_empty]

/-- The operator is written as the symbol between its operands. -/
def WritesBetween (config : Config) (kind symbol : String) : Prop :=
  BinaryOperator.ofKind? kind = none ∧
    config.operators.form? kind = some (.infixed symbol)

theorem renderAt_between (between : config.WritesBetween kind symbol)
    (left right : Node) :
    config.renderAt .free (.binary kind left right) =
      config.renderAt (.operand .other none false) left ++
        (.write (" " ++ symbol ++ " ") ++
          config.renderAt (.operand .other none true) right) := by
  obtain ⟨definition, found, form⟩ := Registry.find_of_form?_eq_some between.2
  rw [renderAt.eq_def]
  simp only [place_free, between.1, found, form, append_assoc]

end Config

end SqlExpr
