import SqlExpr.Proofs.Node.Chain
import SqlExpr.Proofs.Output.Operand

/-!
# Chains written with a stack

`ChainLoop` writes the operands of a chain one by one from a stack of nodes,
without going down the tree.  It ends with what the rendering of the tree is,
namely the operands with the connective between neighbours, so that the way in
which they were put together cannot be seen.
-/

namespace SqlExpr

/-! ## What is written of a chain -/

theorem Node.IsOperand.takesApart_eq_false {connective : BinaryOperator}
    {node : Node} (operand : node.IsOperand connective) (leads : Bool) :
    (Position.chained connective leads).takesApart node = false := by
  cases node with
  | group inner =>
      cases connective with
      | or => simpa [Position.takesApart] using operand.not_merges
      | _ => rfl
  | _ => cases connective <;> rfl

namespace Config

variable {config : Config} {connective : BinaryOperator} {kind : String}
  {node : Node}

/-- An operand as a chain writes it. -/
def renderOperand (config : Config) (connective : BinaryOperator)
    (operand : Node) : Rendering :=
  if operand.bindsLooser connective then
    .write "(" ++ config.rendering operand ++ .write ")"
  else config.rendering operand

theorem renderAt_operand (joins : connective.isConnective) (onRight : Bool)
    (node : Node) :
    config.renderAt
        (.operand connective.precedence (some connective) onRight) node =
      config.renderOperand connective node := by
  have whole : (Position.operand connective.precedence (some connective)
      onRight).takesApart node = false := by
    cases node <;> rfl
  have encloses : (Position.operand connective.precedence (some connective)
      onRight).parenthesizes node = node.bindsLooser connective :=
    needsParentheses_eq_bindsLooser joins onRight node
  rw [renderAt_eq_place whole, Position.place, encloses]
  exact Rendering.empty_append _

theorem renderAt_chained_operand (joins : connective.isConnective)
    (operand : node.IsOperand connective) (leads : Bool) :
    config.renderAt (.chained connective leads) node =
      .write (Position.chained connective leads).separator ++
        config.renderOperand connective node := by
  have encloses : (Position.chained connective leads).parenthesizes node =
      node.bindsLooser connective :=
    needsParentheses_eq_bindsLooser joins (!leads) node
  rw [renderAt_eq_place (operand.takesApart_eq_false leads), Position.place,
    encloses]
  rfl

theorem renderAt_chained_binary
    (named : BinaryOperator.ofKind? kind = some connective)
    (joins : connective.isConnective) (leads : Bool) (left right : Node) :
    config.renderAt (.chained connective leads) (.binary kind left right) =
      config.renderAt (.chained connective leads) left ++
        config.renderAt (.chained connective false) right := by
  rw [renderAt_core named (by simp), if_pos joins, if_pos]
  simp [Position.continues]

theorem renderAt_chained_group {inner : Node}
    (disjunction : inner.isBinaryOf .or) (leads : Bool) :
    config.renderAt (.chained .or leads) (.group inner) =
      config.renderAt (.chained .or leads) inner := by
  rw [renderAt, if_pos]
  simp [Position.continues, disjunction]

/-- A chain is written as its operands, however they are put together. -/
theorem renderAt_chained_eq_join (joins : connective.isConnective)
    (leads : Bool) (node : Node) :
    config.renderAt (.chained connective leads) node =
      .write (Position.chained connective leads).separator ++
        .join (" " ++ connective.symbol ++ " ")
          ((node.chainOperands connective).map
            (config.renderOperand connective)) := by
  induction node using Node.chain_induction connective
    generalizing leads with
  | joined kind left right named ofLeft ofRight =>
      have some (side : Node) : (side.chainOperands connective).map
          (config.renderOperand connective) ≠ [] := by
        simp [Node.chainOperands_ne_nil]
      rw [renderAt_chained_binary named joins, ofLeft, ofRight,
        Node.chainOperands_binary named, List.map_append,
        Rendering.join_append _ (some left) (some right)]
      simp only [Rendering.append_assoc]
      rfl
  | opens inner disjunctive disjunction ofInner =>
      subst disjunctive
      rw [renderAt_chained_group disjunction, ofInner,
        Node.chainOperands_group disjunction]
  | operand node operand =>
      rw [renderAt_chained_operand joins operand, operand.chainOperands_eq]
      rfl

/-- On its own a chain is written as at the beginning of a longer one. -/
theorem rendering_chain (joins : connective.isConnective)
    (named : BinaryOperator.ofKind? kind = some connective)
    (left right : Node) :
    config.rendering (.binary kind left right) =
      config.renderAt (.chained connective true) (.binary kind left right) := by
  rw [renderAt_chained_binary named joins]
  exact renderAt_connective joins named left right

theorem rendering_chain_eq_join (joins : connective.isConnective)
    (named : BinaryOperator.ofKind? kind = some connective)
    (left right : Node) :
    config.rendering (.binary kind left right) =
      .join (" " ++ connective.symbol ++ " ")
        (((Node.binary kind left right).chainOperands connective).map
          (config.renderOperand connective)) := by
  rw [rendering_chain joins named, renderAt_chained_eq_join joins]
  exact Rendering.empty_append _

end Config

/-! ## The loop -/

/-- The loop that writes a chain: the nodes that it still has to take, the next
one first, whether it has not written an operand yet, and what was written. -/
structure ChainLoop where
  pending : List Node
  leads : Bool
  written : Rendering

namespace ChainLoop

/-- The loop at its beginning, behind the text of a buffer. -/
def start (left right : Node) (buffer : String) : ChainLoop :=
  ⟨[left, right], true, .write buffer⟩

/-- Take the next node: put the sides of a node of the connective back in its
place, or write an operand.  The loop ends behind the last node and behind an
error. -/
def step (config : Config) (connective : BinaryOperator) (loop : ChainLoop) :
    Option ChainLoop :=
  match loop.written.error?, loop.pending with
  | none, next :: pending =>
    let node := next.opened connective
    match node.sides? connective with
    | some (left, right) =>
      some { loop with pending := left :: right :: pending }
    | none =>
      let separator : Rendering :=
        if loop.leads then .empty
        else .write (" " ++ connective.symbol ++ " ")
      let place : Position :=
        .operand connective.precedence (some connective) (!loop.leads)
      some ⟨pending, false,
        loop.written ++ separator ++ config.renderAt place node⟩
  | _, _ => none

/-- The loop ends after some steps, with this written. -/
inductive Ends (config : Config) (connective : BinaryOperator) :
    ChainLoop → Rendering → Prop where
  | done {loop : ChainLoop} (last : loop.step config connective = none) :
      Ends config connective loop loop.written
  | next {loop following : ChainLoop} {written : Rendering}
      (steps : loop.step config connective = some following)
      (ends : Ends config connective following written) :
      Ends config connective loop written

variable {config : Config} {connective : BinaryOperator} {node : Node}
  {pending : List Node} {leads : Bool} {written out : Rendering}

theorem step_of_error {loop : ChainLoop} {error : ExprError}
    (failed : loop.written.error? = some error) :
    loop.step config connective = none := by
  rw [step, failed]

namespace Ends

theorem unique {loop : ChainLoop} {other : Rendering}
    (ends : Ends config connective loop out)
    (again : Ends config connective loop other) : other = out := by
  induction ends with
  | done last =>
      cases again with
      | done => rfl
      | next steps =>
          rw [last] at steps
          cases steps
  | next steps _ induction =>
      cases again with
      | done last =>
          rw [last] at steps
          cases steps
      | next otherSteps again =>
          cases steps.symm.trans otherSteps
          exact induction again

theorem eq_of_error {loop : ChainLoop} {error : ExprError}
    (failed : loop.written.error? = some error)
    (ends : Ends config connective loop out) : out = loop.written :=
  Ends.unique (.done (step_of_error failed)) ends

/-- Behind an error the loop has nothing left to do. -/
theorem ofError {loop following : ChainLoop} {error : ExprError}
    (ends : Ends config connective following out)
    (failed : loop.written.error? = some error)
    (same : following.written = loop.written) :
    Ends config connective loop out := by
  rw [ends.eq_of_error (same ▸ failed), same]
  exact .done (step_of_error failed)

theorem ofSides {left right : Node}
    (sides : (node.opened connective).sides? connective = some (left, right))
    (ends : Ends config connective ⟨left :: right :: pending, leads, written⟩
      out) :
    Ends config connective ⟨node :: pending, leads, written⟩ out := by
  cases fine : written.error? with
  | some error => exact ends.ofError fine rfl
  | none =>
      apply Ends.next _ ends
      simp only [step, fine, sides]

theorem ofOperand (joins : connective.isConnective)
    (operand : node.IsOperand connective)
    (ends : Ends config connective ⟨pending, false,
      written ++ config.renderAt (.chained connective leads) node⟩ out) :
    Ends config connective ⟨node :: pending, leads, written⟩ out := by
  cases fine : written.error? with
  | some error =>
      rw [Rendering.append_of_error fine] at ends
      exact ends.ofError fine rfl
  | none =>
      apply Ends.next _ ends
      have whole : node.sides? connective = none := by
        simpa [Node.IsOperand, operand.opened_eq] using operand
      simp only [step, fine, operand.opened_eq, whole]
      rw [Config.renderAt_operand joins,
        Config.renderAt_chained_operand joins operand, Rendering.append_assoc]
      cases leads <;> rfl

/-- A disjunction in parentheses is taken as the disjunction itself is. -/
theorem ofGroup {inner : Node} (disjunction : inner.isBinaryOf .or)
    (ends : Ends config .or ⟨inner :: pending, leads, written⟩ out) :
    Ends config .or ⟨.group inner :: pending, leads, written⟩ out := by
  have opened : (Node.group inner).opened .or = inner.opened .or := by
    cases inner with
    | binary kind left right => simp [Node.opened, disjunction]
    | _ => cases disjunction
  have same : step config .or ⟨.group inner :: pending, leads, written⟩ =
      step config .or ⟨inner :: pending, leads, written⟩ := by
    cases fine : written.error? with
    | some error => rw [step_of_error fine, step_of_error fine]
    | none => simp only [step, fine, opened]
  cases ends with
  | done last => exact .done (same.trans last)
  | next steps ends => exact .next (same.trans steps) ends

/-- The loop takes a node as its chain is written, and goes on with what is
below it on the stack. -/
theorem cons (joins : connective.isConnective) (node : Node)
    (ends : Ends config connective ⟨pending, false,
      written ++ config.renderAt (.chained connective leads) node⟩ out) :
    Ends config connective ⟨node :: pending, leads, written⟩ out := by
  induction node using Node.chain_induction connective
    generalizing pending leads written with
  | joined kind left right named ofLeft ofRight =>
      rw [Config.renderAt_chained_binary named joins,
        ← Rendering.append_assoc] at ends
      have sides : ((Node.binary kind left right).opened connective).sides?
          connective = some (left, right) := by
        simp [Node.opened, Node.sides?, named]
      exact ofSides sides (ofLeft (ofRight ends))
  | opens inner disjunctive disjunction ofInner =>
      subst disjunctive
      rw [Config.renderAt_chained_group disjunction] at ends
      exact ofGroup disjunction (ofInner ends)
  | operand node operand => exact ofOperand joins operand ends

end Ends

/-- The loop ends, and it has written what the chain is written as. -/
theorem ends_start (joins : connective.isConnective) (left right : Node)
    (buffer : String) :
    Ends config connective (start left right buffer)
      (.write buffer ++
        (config.renderAt (.chained connective true) left ++
          config.renderAt (.chained connective false) right)) := by
  apply Ends.cons joins left
  apply Ends.cons joins right
  rw [Rendering.append_assoc]
  apply Ends.done
  unfold step
  split
  next stack => cases stack
  next => rfl

end ChainLoop

namespace Config

variable {config : Config} {connective : BinaryOperator} {kind : String}

/-- The loop over a chain ends with the rendering of the chain.  This is the
row of its operands, none of which goes on with the chain, each in parentheses
exactly if it binds more loosely; so only their order can be seen. -/
theorem chain_eq_operands (joins : connective.isConnective)
    (named : BinaryOperator.ofKind? kind = some connective)
    (left right : Node) :
    let node := Node.binary kind left right
    (∀ buffer out, ChainLoop.Ends config connective
      (.start left right buffer) out ↔
        out = .write buffer ++ config.rendering node) ∧
    config.rendering node =
      .join (" " ++ connective.symbol ++ " ")
        ((node.chainOperands connective).map
          (config.renderOperand connective)) ∧
    (∀ operand ∈ node.chainOperands connective,
      operand.IsOperand connective) ∧
    ∀ otherKind otherLeft otherRight,
      BinaryOperator.ofKind? otherKind = some connective →
      (Node.binary otherKind otherLeft otherRight).chainOperands connective =
        node.chainOperands connective →
      config.render (.binary otherKind otherLeft otherRight) =
        config.render node := by
  intro node
  refine ⟨?_, rendering_chain_eq_join joins named left right, ?_, ?_⟩
  · intro buffer out
    have ends : ChainLoop.Ends config connective (.start left right buffer) _ :=
      ChainLoop.ends_start joins left right buffer
    rw [rendering_chain joins named, renderAt_chained_binary named joins]
    constructor
    · exact ends.unique
    · intro same
      rwa [same]
  · intro operand member
    exact Node.isOperand_of_mem_chainOperands member
  · intro otherKind otherLeft otherRight otherNamed same
    rw [render, render, rendering_chain_eq_join joins otherNamed, same,
      rendering_chain_eq_join joins named]

/-- Three disjuncts have one text, whether the first two of them are put
together or the last two, in parentheses. -/
theorem chain_eq_operands_regrouped :
    let a := Node.column none "a"
    let b := Node.column none "b"
    let c := Node.column none "c"
    let nested := Node.binary "OR" (.binary "OR" a b) c
    BinaryOperator.or.isConnective ∧
      BinaryOperator.ofKind? "OR" = some .or ∧
      nested.chainOperands .or = [a, b, c] ∧
      postgres.render (.binary "OR" a (.group (.binary "OR" b c))) =
        postgres.render nested ∧
      postgres.render nested = .ok "\"a\" OR \"b\" OR \"c\"" := by
  intro a b c nested
  have named : BinaryOperator.ofKind? "OR" = some .or := rfl
  obtain ⟨_, _, _, merged⟩ :=
    @chain_eq_operands postgres .or "OR" rfl named (.binary "OR" a b) c
  exact ⟨rfl, named, rfl, merged "OR" a _ named rfl, rfl⟩

end Config

end SqlExpr
