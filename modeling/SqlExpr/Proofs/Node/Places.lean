import Mathlib.Data.List.Sort
import Mathlib.Logic.Relation
import SqlExpr.Proofs.Node.Nesting

/-!
# Places in nested lists

A place tells the way to a node through lists: the number of an item, then the
number of an item in this one, and so on.  Opening the lists of a node leaves
the nodes that are no lists, each of them once and in the order of their
places.  So all that is lost is how they were put together: two rows of nodes
are opened to the same nodes exactly if one can be made of the other by putting
lists around neighbours and by taking such lists away.
-/

namespace SqlExpr.Node

open SqlExpr.Extension

/-- The node at a place, if the way to it goes through lists. -/
def itemAt? : Node → List Nat → Option Node
  | node, [] => some node
  | .list items, number :: place =>
    items[number]?.bind fun item => item.itemAt? place
  | _, _ :: _ => none

/-- The items are the nodes at the places, and the places are those of all the
nodes that are no lists, in ascending order. -/
structure LaysOut (node : Node) (places : List (List Nat))
    (items : List Node) : Prop where
  ascending : places.Pairwise (· < ·)
  complete : ∀ place, place ∈ places ↔
    ∃ inner, node.itemAt? place = some inner ∧ inner.isList = false
  taken : places.map node.itemAt? = items.map some

mutual

/-- The places of the nodes that are no lists. -/
def places : Node → List (List Nat)
  | .list items => placesFrom 0 items
  | _ => [[]]

/-- The places in a row of nodes whose first one has the given number. -/
def placesFrom (number : Nat) : List Node → List (List Nat)
  | [] => []
  | node :: nodes =>
    node.places.map (number :: ·) ++ placesFrom (number + 1) nodes

end

variable {node inner : Node} {nodes others : List Node}
  {number : Nat} {place : List Nat}

theorem places_of_not_isList (plain : node.isList = false) :
    node.places = [[]] := by
  cases node with
  | list items => cases plain
  | _ => rfl

theorem itemAt?_nil (node : Node) : node.itemAt? [] = some node := by
  cases node <;> rfl

theorem itemAt?_cons_of_not_isList (plain : node.isList = false) :
    node.itemAt? (number :: place) = none := by
  cases node with
  | list items => cases plain
  | _ => rfl

theorem mem_placesFrom_iff :
    place ∈ placesFrom number nodes ↔
      ∃ index node rest, nodes[index]? = some node ∧ rest ∈ node.places ∧
        place = (number + index) :: rest := by
  induction nodes generalizing number with
  | nil => simp [placesFrom]
  | cons first nodes induction =>
      rw [placesFrom, List.mem_append, List.mem_map, induction]
      constructor
      · rintro (⟨rest, member, rfl⟩ | ⟨index, node, rest, found, member, rfl⟩)
        · exact ⟨0, first, rest, rfl, member, rfl⟩
        · refine ⟨index + 1, node, rest, found, member, ?_⟩
          rw [Nat.add_assoc, Nat.add_comm 1 index]
      · rintro ⟨index, node, rest, found, member, rfl⟩
        cases index with
        | zero =>
            cases found
            exact .inl ⟨rest, member, rfl⟩
        | succ index =>
            refine .inr ⟨index, node, rest, found, member, ?_⟩
            rw [Nat.add_assoc, Nat.add_comm 1 index]

theorem nil_mem_places_iff : [] ∈ node.places ↔ node.isList = false := by
  cases node with
  | list items =>
      rw [places, mem_placesFrom_iff]
      simp [isList]
  | _ => exact iff_of_true List.mem_cons_self rfl

theorem cons_mem_places_iff {items : List Node} :
    number :: place ∈ (list items).places ↔
      ∃ item, items[number]? = some item ∧ place ∈ item.places := by
  rw [places, mem_placesFrom_iff]
  simp

/-- There is a place for each node that is no list, and for no other. -/
theorem mem_places_iff :
    place ∈ node.places ↔
      ∃ inner, node.itemAt? place = some inner ∧ inner.isList = false := by
  induction place generalizing node with
  | nil => simp [nil_mem_places_iff, itemAt?_nil]
  | cons number place induction =>
      cases opened : node.isList with
      | false =>
          rw [places_of_not_isList opened, itemAt?_cons_of_not_isList opened]
          simp
      | true =>
          cases node with
          | list items =>
              simp only [cons_mem_places_iff, itemAt?, induction,
                Option.bind_eq_some_iff]
              grind
          | _ => cases opened

mutual

theorem ascending_places : (node : Node) → node.places.Pairwise (· < ·)
  | .list items => ascending_placesFrom 0 items
  | .column .. | .literal .. | .binary .. | .unary .. | .call ..
  | .caseWhen .. | .group _ | .aliased .. | .raw _ => by
      rw [places_of_not_isList rfl]
      exact List.pairwise_singleton _ _

theorem ascending_placesFrom (number : Nat) :
    (nodes : List Node) → (placesFrom number nodes).Pairwise (· < ·)
  | [] => .nil
  | node :: nodes => by
      rw [placesFrom, List.pairwise_append, List.pairwise_map]
      refine ⟨?_, ascending_placesFrom (number + 1) nodes, ?_⟩
      · refine (ascending_places node).imp fun less => ?_
        exact List.cons_lt_cons_iff.mpr (.inr ⟨rfl, less⟩)
      · intro first member later behind
        obtain ⟨rest, -, rfl⟩ := List.mem_map.mp member
        obtain ⟨index, _, _, -, -, rfl⟩ := mem_placesFrom_iff.mp behind
        exact List.cons_lt_cons_iff.mpr (.inl (by omega))

end

theorem itemAt?_append (front nodes : List Node) (node : Node)
    (place : List Nat) :
    (list (front ++ node :: nodes)).itemAt? (front.length :: place) =
      node.itemAt? place := by
  rw [itemAt?, List.getElem?_append_right (Nat.le_refl _), Nat.sub_self]
  rfl

mutual

theorem taken_places : (node : Node) →
    node.places.map node.itemAt? = (flatten node).map some
  | .list items => taken_placesFrom [] items
  | .column .. | .literal .. | .binary .. | .unary .. | .call ..
  | .caseWhen .. | .group _ | .aliased .. | .raw _ => rfl

/-- Nodes behind others are taken from their places in the whole row. -/
theorem taken_placesFrom (front : List Node) : (nodes : List Node) →
    (placesFrom front.length nodes).map (list (front ++ nodes)).itemAt? =
      (flattenAll nodes).map some
  | [] => rfl
  | node :: nodes => by
      have own : (node.places.map (front.length :: ·)).map
          (list (front ++ node :: nodes)).itemAt? =
            node.places.map node.itemAt? := by
        rw [List.map_map]
        exact List.map_congr_left fun place _ =>
          itemAt?_append front nodes node place
      have others := taken_placesFrom (front ++ [node]) nodes
      rw [List.length_append, List.length_singleton, List.append_assoc,
        List.singleton_append] at others
      rw [placesFrom, List.map_append, own, others, taken_places node,
        flattenAll, List.map_append]

end

theorem laysOut_flatten (node : Node) :
    node.LaysOut node.places (flatten node) where
  ascending := ascending_places node
  complete _ := mem_places_iff
  taken := taken_places node

/-- A node is laid out in one way only. -/
theorem LaysOut.unique {first second : List (List Nat)}
    {items more : List Node} (laysOut : node.LaysOut first items)
    (again : node.LaysOut second more) : second = first ∧ more = items := by
  have same : second = first :=
    again.ascending.eq_of_mem_iff laysOut.ascending fun place =>
      (again.complete place).trans (laysOut.complete place).symm
  subst same
  have taken := again.taken.symm.trans laysOut.taken
  exact ⟨rfl, List.map_injective_iff.mpr (Option.some_injective Node) taken⟩

/-! ## Regrouping -/

/-- In a row of nodes a list is opened, at any depth. -/
inductive OpensList : List Node → List Node → Prop where
  | here (items nodes : List Node) :
      OpensList (.list items :: nodes) (items ++ nodes)
  | inside {items others : List Node} (nodes : List Node) :
      OpensList items others →
      OpensList (.list items :: nodes) (.list others :: nodes)
  | behind (node : Node) {nodes others : List Node} :
      OpensList nodes others → OpensList (node :: nodes) (node :: others)

/-- One row of nodes can be made of the other by putting lists around
neighbours and taking lists away. -/
def Regroups : List Node → List Node → Prop := Relation.EqvGen OpensList

theorem flattenAll_append (nodes others : List Node) :
    flattenAll (nodes ++ others) = flattenAll nodes ++ flattenAll others := by
  induction nodes with
  | nil => rfl
  | cons node nodes induction =>
      rw [List.cons_append, flattenAll, flattenAll, induction,
        List.append_assoc]

theorem OpensList.flattenAll_eq (opens : OpensList nodes others) :
    flattenAll nodes = flattenAll others := by
  induction opens with
  | here items nodes => rw [flattenAll, flattenAll_append, flatten]
  | inside nodes _ induction =>
      rw [flattenAll, flattenAll, flatten, flatten, induction]
  | behind node _ induction => rw [flattenAll, flattenAll, induction]

namespace Regroups

theorem flattenAll_eq (regroups : Regroups nodes others) :
    flattenAll nodes = flattenAll others := by
  induction regroups with
  | rel _ _ opens => exact opens.flattenAll_eq
  | refl => rfl
  | symm _ _ _ induction => exact induction.symm
  | trans _ _ _ _ _ first second => exact first.trans second

/-- What can be done to a row of nodes can be done wherever it stands. -/
theorem map (place : List Node → List Node)
    (opens : ∀ first second, OpensList first second →
      OpensList (place first) (place second))
    (regroups : Regroups nodes others) :
    Regroups (place nodes) (place others) := by
  induction regroups with
  | rel first second own => exact .rel _ _ (opens first second own)
  | refl => exact .refl _
  | symm _ _ _ induction => exact .symm _ _ induction
  | trans _ _ _ _ _ first second => exact .trans _ _ _ first second

theorem append (front : List Node) (regroups : Regroups nodes others) :
    Regroups (front ++ nodes) (front ++ others) := by
  induction front with
  | nil => exact regroups
  | cons node front induction =>
      exact induction.map (node :: ·) fun _ _ => .behind node

end Regroups

mutual

/-- Nodes can be regrouped to what they are opened to. -/
theorem regroups_flatten (nodes : List Node) :
    (node : Node) → Regroups (node :: nodes) (flatten node ++ nodes)
  | .list items => by
      have inside := (regroups_flattenAll items).map (list · :: nodes)
        fun _ _ => .inside nodes
      exact .trans _ _ _ inside (.rel _ _ (.here (flattenAll items) nodes))
  | .column .. | .literal .. | .binary .. | .unary .. | .call ..
  | .caseWhen .. | .group _ | .aliased .. | .raw _ => .refl _

theorem regroups_flattenAll :
    (nodes : List Node) → Regroups nodes (flattenAll nodes)
  | [] => .refl _
  | node :: nodes => by
      have behind := (regroups_flattenAll nodes).append (flatten node)
      exact .trans _ _ _ (regroups_flatten nodes node) behind

end

/-- Rows of nodes are opened to the same nodes exactly if they can be regrouped
to one another. -/
theorem flattenAll_eq_iff :
    flattenAll nodes = flattenAll others ↔ Regroups nodes others := by
  constructor
  · intro same
    have opened := regroups_flattenAll others
    rw [← same] at opened
    exact .trans _ _ _ (regroups_flattenAll nodes) (.symm _ _ opened)
  · exact Regroups.flattenAll_eq

end SqlExpr.Node
