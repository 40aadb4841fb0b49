import SqlExpr.Node.Basic

/-!
# The nodes of a tree

`Node.subnodes` lists every node of a tree, itself first and then those of its
children from left to right.  A property of a whole tree is a property of each
of them; `Node.All` unfolds such a property along the tree.
-/

namespace SqlExpr.Node

theorem eq_null_of_isNull {node : Node} (null : node.isNull) :
    node = .null := by
  cases node with
  | literal value sqlType? =>
      cases sqlType? with
      | none =>
          cases value with
          | null => rfl
          | _ => cases null
      | some sqlType => cases null
  | _ => cases null

mutual

/-- All nodes of a tree, in the order in which their text begins. -/
def subnodes : Node → List Node
  | .column table? name => [.column table? name]
  | .literal value sqlType? => [.literal value sqlType?]
  | .binary kind left right =>
    .binary kind left right :: (left.subnodes ++ right.subnodes)
  | .unary kind operand => .unary kind operand :: operand.subnodes
  | .call name arguments => .call name arguments :: subnodesOfAll arguments
  | .caseWhen branches otherwise? =>
    .caseWhen branches otherwise? ::
      (subnodesOfBranches branches ++ subnodesOfElse otherwise?)
  | .group inner => .group inner :: inner.subnodes
  | .list items => .list items :: subnodesOfAll items
  | .aliased relation name => .aliased relation name :: relation.subnodes
  | .raw sql => [.raw sql]

def subnodesOfAll : List Node → List Node
  | [] => []
  | node :: nodes => node.subnodes ++ subnodesOfAll nodes

def subnodesOfBranches : List (Node × Node) → List Node
  | [] => []
  | (condition, result) :: branches =>
    condition.subnodes ++ (result.subnodes ++ subnodesOfBranches branches)

def subnodesOfElse : Option Node → List Node
  | none => []
  | some result => result.subnodes

end

/-- Every node of a tree has the property. -/
def All (property : Node → Prop) (node : Node) : Prop :=
  ∀ inner ∈ node.subnodes, property inner

/-- No node of the tree is SQL text of its own. -/
def WithoutRaw (node : Node) : Prop :=
  node.All fun inner => ∀ sql, inner ≠ .raw sql

/-- No literal of the tree is cast to a type. -/
def WithoutTypes (node : Node) : Prop :=
  node.All fun inner => ∀ value sqlType, inner ≠ .literal value (some sqlType)

namespace All

-- This makes the equations of the recursion once, before the many lemmas that
-- need them.
attribute [local simp] subnodes subnodesOfAll subnodesOfBranches
  subnodesOfElse

variable {property : Node → Prop}

theorem mem_subnodesOfAll {nodes : List Node} {inner : Node} :
    inner ∈ subnodesOfAll nodes ↔ ∃ node ∈ nodes, inner ∈ node.subnodes := by
  induction nodes with
  | nil => simp
  | cons node nodes induction => simp [induction]

theorem mem_subnodesOfBranches {branches : List (Node × Node)}
    {inner : Node} :
    inner ∈ subnodesOfBranches branches ↔
      ∃ branch ∈ branches,
        inner ∈ branch.1.subnodes ∨ inner ∈ branch.2.subnodes := by
  induction branches with
  | nil => simp
  | cons branch branches induction =>
      obtain ⟨condition, result⟩ := branch
      simp [induction, or_assoc]

@[simp] theorem column {table? : Option String} {name : String} :
    All property (.column table? name) ↔ property (.column table? name) := by
  simp [All]

@[simp] theorem literal {value : Value} {sqlType? : Option String} :
    All property (.literal value sqlType?) ↔
      property (.literal value sqlType?) := by
  simp [All]

@[simp] theorem binary {kind : String} {left right : Node} :
    All property (.binary kind left right) ↔
      property (.binary kind left right) ∧ All property left ∧
        All property right := by
  simp [All, or_imp, forall_and]

@[simp] theorem unary {kind : String} {operand : Node} :
    All property (.unary kind operand) ↔
      property (.unary kind operand) ∧ All property operand := by
  simp [All]

@[simp] theorem call {name : String} {arguments : List Node} :
    All property (.call name arguments) ↔
      property (.call name arguments) ∧
        ∀ argument ∈ arguments, All property argument := by
  simp only [All, subnodes, List.forall_mem_cons, mem_subnodesOfAll]
  grind

@[simp] theorem caseWhen {branches : List (Node × Node)}
    {otherwise? : Option Node} :
    All property (.caseWhen branches otherwise?) ↔
      property (.caseWhen branches otherwise?) ∧
        (∀ branch ∈ branches,
          All property branch.1 ∧ All property branch.2) ∧
        ∀ result ∈ otherwise?, All property result := by
  have branchwise :
      (∀ inner ∈ subnodesOfBranches branches, property inner) ↔
        ∀ branch ∈ branches,
          All property branch.1 ∧ All property branch.2 := by
    simp only [mem_subnodesOfBranches, All]
    constructor
    · intro all branch member
      exact ⟨fun inner inside => all inner ⟨branch, member, .inl inside⟩,
        fun inner inside => all inner ⟨branch, member, .inr inside⟩⟩
    · rintro all inner ⟨branch, member, inside | inside⟩
      · exact (all branch member).1 inner inside
      · exact (all branch member).2 inner inside
  have last :
      (∀ inner ∈ subnodesOfElse otherwise?, property inner) ↔
        ∀ result ∈ otherwise?, All property result := by
    cases otherwise? <;> simp [All]
  rw [← branchwise, ← last]
  simp only [All, subnodes, List.forall_mem_cons, List.forall_mem_append]

@[simp] theorem group {inner : Node} :
    All property (.group inner) ↔
      property (.group inner) ∧ All property inner := by
  simp [All]

@[simp] theorem list {items : List Node} :
    All property (.list items) ↔
      property (.list items) ∧ ∀ item ∈ items, All property item := by
  simp only [All, subnodes, List.forall_mem_cons, mem_subnodesOfAll]
  grind

@[simp] theorem aliased {relation : Node} {name : String} :
    All property (.aliased relation name) ↔
      property (.aliased relation name) ∧ All property relation := by
  simp [All]

@[simp] theorem raw {sql : String} :
    All property (.raw sql) ↔ property (.raw sql) := by
  simp [All]

end All

end SqlExpr.Node
