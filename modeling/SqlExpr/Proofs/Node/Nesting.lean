import SqlExpr.Operator.Extension
import SqlExpr.Proofs.Node.Checks

/-!
# Lists within lists

An array is made of nodes that are no lists: the lists among its items are
opened at every depth.  `commas` counts the commas that lists write between
their own items when they are not opened.  Each item of a list brings at most
one comma along, and so lists that are not opened never have fewer commas than
the array of what is in them, and may have more.
-/

namespace SqlExpr

open SqlExpr.Extension

namespace Node

def isList : Node → Bool
  | list _ => true
  | _ => false

/-- What is left of a node without the lists of one item around it. -/
def unwrapped : Node → Node
  | list [item] => item.unwrapped
  | node => node

mutual

/-- The commas that the lists of a node write between their items. -/
def commas : Node → Nat
  | .list items => (items.length - 1) + commasOfAll items
  | _ => 0

def commasOfAll : List Node → Nat
  | [] => 0
  | node :: nodes => node.commas + commasOfAll nodes

end

variable {node : Node} {nodes : List Node}

/-! ## Opening lists -/

theorem flatten_of_not_isList (plain : node.isList = false) :
    flatten node = [node] := by
  cases node with
  | list items => cases plain
  | _ => rfl

theorem commas_of_not_isList (plain : node.isList = false) :
    node.commas = 0 := by
  cases node with
  | list items => cases plain
  | _ => rfl

mutual

/-- No list is left when lists are opened. -/
theorem isList_of_mem_flatten {item : Node} :
    (node : Node) → item ∈ flatten node → item.isList = false
  | .list items => by
      intro member
      exact isList_of_mem_flattenAll items member
  | .column .. | .literal .. | .binary .. | .unary .. | .call ..
  | .caseWhen .. | .group _ | .aliased .. | .raw _ => by
      intro member
      rw [flatten_of_not_isList rfl] at member
      rw [List.mem_singleton.mp member]
      rfl

theorem isList_of_mem_flattenAll {item : Node} :
    (nodes : List Node) → item ∈ flattenAll nodes → item.isList = false
  | [] => by
      intro member
      cases member
  | node :: nodes => by
      intro member
      rcases List.mem_append.mp member with first | later
      · exact isList_of_mem_flatten node first
      · exact isList_of_mem_flattenAll nodes later

end

/-- Nodes stay as they are exactly if there is no list among them. -/
theorem flattenAll_eq_self_iff :
    flattenAll nodes = nodes ↔ ∀ node ∈ nodes, node.isList = false := by
  constructor
  · intro same node member
    rw [← same] at member
    exact isList_of_mem_flattenAll nodes member
  · intro plain
    induction nodes with
    | nil => rfl
    | cons node nodes induction =>
        obtain ⟨first, others⟩ := List.forall_mem_cons.mp plain
        rw [flattenAll, flatten_of_not_isList first, induction others]
        rfl

theorem checksOfAll_append (first second : List Node) :
    checksOfAll (first ++ second) =
      checksOfAll first ++ checksOfAll second := by
  induction first with
  | nil => rfl
  | cons node nodes induction =>
      rw [List.cons_append, checksOfAll, induction, checksOfAll,
        List.append_assoc]

mutual

/-- A list checks what is in it, and so does what it is opened to. -/
theorem checksOfAll_flatten : (node : Node) →
    checksOfAll (flatten node) = node.checks
  | .list items => checksOfAll_flattenAll items
  | .column .. | .literal .. | .binary .. | .unary .. | .call ..
  | .caseWhen .. | .group _ | .aliased .. | .raw _ => by
      rw [flatten_of_not_isList rfl, checksOfAll, checksOfAll,
        List.append_nil]

theorem checksOfAll_flattenAll : (nodes : List Node) →
    checksOfAll (flattenAll nodes) = checksOfAll nodes
  | [] => rfl
  | node :: nodes => by
      rw [flattenAll, checksOfAll_append, checksOfAll_flatten node,
        checksOfAll_flattenAll nodes, checksOfAll]

end

/-! ## Lists of one item -/

/-- A node is unwrapped to one that is no list, or to a list of no item or of
several. -/
theorem unwrapped_cases (node : Node) :
    node.unwrapped.isList = false ∨ node.unwrapped = .list [] ∨
      ∃ first second others,
        node.unwrapped = .list (first :: second :: others) := by
  fun_induction unwrapped node with
  | case1 item induction => exact induction
  | case2 node other =>
      cases node with
      | list items =>
          cases items with
          | nil => exact .inr (.inl rfl)
          | cons first others =>
              cases others with
              | nil => exact absurd rfl (other first)
              | cons second others => exact .inr (.inr ⟨_, _, _, rfl⟩)
      | _ => exact .inl rfl

theorem flatten_unwrapped (node : Node) :
    flatten node.unwrapped = flatten node := by
  fun_induction unwrapped node with
  | case1 item induction =>
      rw [induction, flatten, flattenAll, flattenAll, List.append_nil]
  | case2 => rfl

/-- Items that are one node each are opened to these nodes. -/
theorem flattenAll_of_unwrapped
    (single : ∀ node ∈ nodes, node.unwrapped.isList = false) :
    flattenAll nodes = nodes.map unwrapped := by
  induction nodes with
  | nil => rfl
  | cons node nodes induction =>
      obtain ⟨first, others⟩ := List.forall_mem_cons.mp single
      rw [flattenAll, ← flatten_unwrapped, flatten_of_not_isList first,
        induction others]
      rfl

theorem commas_unwrapped (node : Node) :
    node.unwrapped.commas = node.commas := by
  fun_induction unwrapped node with
  | case1 item induction =>
      rw [induction, commas, commasOfAll, commasOfAll]
      simp
  | case2 => rfl

/-! ## Counting commas -/

mutual

theorem length_flatten_le : (node : Node) →
    (flatten node).length ≤ node.commas + 1
  | .list items => by
      have inner := length_flattenAll_le items
      rw [flatten, commas]
      omega
  | .column .. | .literal .. | .binary .. | .unary .. | .call ..
  | .caseWhen .. | .group _ | .aliased .. | .raw _ => by
      rw [flatten_of_not_isList rfl]
      exact Nat.le_add_left 1 _

theorem length_flattenAll_le : (nodes : List Node) →
    (flattenAll nodes).length ≤ commasOfAll nodes + nodes.length
  | [] => Nat.le_refl 0
  | node :: nodes => by
      have first := length_flatten_le node
      have others := length_flattenAll_le nodes
      rw [flattenAll, commasOfAll, List.length_append, List.length_cons]
      omega

end

/-- One node and no comma is what there is in a node that is no list, within
any number of lists of one item. -/
theorem length_flatten_eq_one_iff :
    (flatten node).length = 1 ∧ node.commas = 0 ↔
      node.unwrapped.isList = false := by
  rw [← flatten_unwrapped, ← commas_unwrapped]
  constructor
  · rintro ⟨one, none⟩
    rcases unwrapped_cases node with plain | empty | ⟨_, _, _, several⟩
    · exact plain
    · rw [empty] at one
      cases one
    · rw [several, commas, List.length_cons, List.length_cons] at none
      omega
  · intro plain
    rw [flatten_of_not_isList plain, commas_of_not_isList plain]
    exact ⟨rfl, rfl⟩

/-- Nothing at all is what there is in an empty list, within any number of
lists of one item. -/
theorem length_flatten_eq_zero_iff :
    (flatten node).length = 0 ∧ node.commas = 0 ↔
      node.unwrapped = .list [] := by
  rw [← flatten_unwrapped, ← commas_unwrapped]
  constructor
  · rintro ⟨zero, none⟩
    rcases unwrapped_cases node with plain | empty | ⟨_, _, _, several⟩
    · rw [flatten_of_not_isList plain] at zero
      cases zero
    · exact empty
    · rw [several, commas, List.length_cons, List.length_cons] at none
      omega
  · intro empty
    rw [empty]
    exact ⟨rfl, rfl⟩

/-- Without commas in lists, and with as many nodes in them as there are items,
each item is one node. -/
theorem unwrapped_of_length_flattenAll
    (length : (flattenAll nodes).length = nodes.length)
    (none : commasOfAll nodes = 0) :
    ∀ node ∈ nodes, node.unwrapped.isList = false := by
  induction nodes with
  | nil => exact List.forall_mem_nil _
  | cons node nodes induction =>
      have first := length_flatten_le node
      have others := length_flattenAll_le nodes
      rw [flattenAll, List.length_append, List.length_cons] at length
      rw [commasOfAll] at none
      rw [List.forall_mem_cons]
      constructor
      · apply length_flatten_eq_one_iff.mp
        omega
      · apply induction <;> omega

theorem length_flattenAll_of_unwrapped
    (single : ∀ node ∈ nodes, node.unwrapped.isList = false) :
    (flattenAll nodes).length = nodes.length ∧ commasOfAll nodes = 0 := by
  induction nodes with
  | nil => exact ⟨rfl, rfl⟩
  | cons node nodes induction =>
      obtain ⟨first, others⟩ := List.forall_mem_cons.mp single
      obtain ⟨one, none⟩ := length_flatten_eq_one_iff.mpr first
      obtain ⟨length, commas⟩ := induction others
      rw [flattenAll, commasOfAll, List.length_append, List.length_cons]
      omega

/-- Items whose lists are written as one text with what the lists are opened
to: each of them is one node, or there is one item and nothing in it. -/
def WritesLikeOpened (nodes : List Node) : Prop :=
  (∀ node ∈ nodes, node.unwrapped.isList = false) ∨
    ∃ node, nodes = [node] ∧ node.unwrapped = .list []

/-- Two characters for each comma between the items of a list, and one for
each between the items of an array, are as many as the array of the opened
lists needs exactly if the lists are written like what they are opened to. -/
theorem writesLikeOpened_iff :
    WritesLikeOpened nodes ↔
      2 * commasOfAll nodes + (nodes.length - 1) =
        (flattenAll nodes).length - 1 := by
  constructor
  · rintro (single | ⟨node, rfl, empty⟩)
    · obtain ⟨length, none⟩ := length_flattenAll_of_unwrapped single
      omega
    · obtain ⟨zero, none⟩ := length_flatten_eq_zero_iff.mpr empty
      rw [commasOfAll, commasOfAll, flattenAll, flattenAll, List.append_nil,
        none, zero]
      rfl
  · intro same
    have most := length_flattenAll_le nodes
    by_cases nothing : (flattenAll nodes).length = 0
    · match nodes with
      | [] => exact .inl (List.forall_mem_nil _)
      | [node] =>
          refine .inr ⟨node, rfl, length_flatten_eq_zero_iff.mp ?_⟩
          rw [commasOfAll, commasOfAll, List.length_singleton] at same
          rw [flattenAll, flattenAll, List.append_nil] at nothing same
          omega
      | first :: second :: others =>
          rw [List.length_cons, List.length_cons] at same
          omega
    · apply Or.inl
      apply unwrapped_of_length_flattenAll <;> omega

end Node

end SqlExpr
