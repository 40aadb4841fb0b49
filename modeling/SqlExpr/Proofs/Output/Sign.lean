import SqlExpr.Proofs.Operator.Forms
import SqlExpr.Proofs.Output.Operand

/-!
# Signs of operators on one operand

A registered operator on one operand is written as a sign before or behind the
operand.  The operand gets no parentheses for it, and neither does the operator
where it is an operand itself.  So a sign on a pair can be told from a sign on
the operand beside it only by the parentheses that this operand has in the
pair.
-/

namespace SqlExpr

namespace BinaryOperator

/-- Whether an operand of an operator stands in parentheses. -/
def encloses (operator : BinaryOperator) (onRight : Bool) (node : Node) :
    Bool :=
  needsParentheses operator.precedence (some operator) onRight node

/-- Whether the left operand of an operator is written as it is on its own. -/
def keepsLeft (operator : BinaryOperator) (left : Node) : Bool :=
  !operator.encloses false left

/-- Whether the right operand of an operator is written as it is on its own.
Behind `BETWEEN`, a conjunction is if its operands have parentheses as bounds
only where they have them in the conjunction. -/
def keepsRight (operator : BinaryOperator) : Node → Bool
  | .binary kind low high =>
    if operator = .between ∧ ofKind? kind = some .and then
      between.encloses false low == and.encloses false low &&
        between.encloses true high == and.encloses true high
    else !operator.encloses true (.binary kind low high)
  | right => !operator.encloses true right

/-- Where the left operand of an operator stands. -/
def leftPosition (operator : BinaryOperator) : Position :=
  if operator.isConnective then .chained operator true
  else .operand operator.precedence (some operator) false

/-- Where the right operand of an operator stands. -/
def rightPosition (operator : BinaryOperator) : Position :=
  if operator.isConnective then .chained operator false
  else if operator = .between then .bounds
  else .operand operator.precedence (some operator) true

/-- What stands between the operands and does not belong to the position of the
right one. -/
def joint (operator : BinaryOperator) : String :=
  if operator.isConnective then ""
  else if operator = .between then " BETWEEN "
  else " " ++ operator.symbol ++ " "

variable {operator : BinaryOperator} {node : Node}

theorem separator_leftPosition : operator.leftPosition.separator = "" := by
  unfold leftPosition
  split <;> rfl

theorem parenthesizes_leftPosition :
    operator.leftPosition.parenthesizes node =
      operator.encloses false node := by
  unfold leftPosition
  split <;> rfl

theorem parenthesizes_rightPosition :
    operator.rightPosition.parenthesizes node =
      operator.encloses true node := by
  unfold rightPosition
  split
  · rfl
  · split
    next same =>
      subst same
      rfl
    next => rfl

theorem keepsRight_whole
    (whole : ¬ (operator = .between ∧ node.isBinaryOf .and)) :
    operator.keepsRight node = !operator.encloses true node := by
  cases node with
  | binary kind low high =>
      simp only [Node.isBinaryOf, decide_eq_true_eq] at whole
      simp only [keepsRight, whole, if_false]
  | _ => rfl

theorem keepsRight_bounds {kind : String} {low high : Node}
    (core : ofKind? kind = some .and) :
    between.keepsRight (.binary kind low high) ↔
      between.encloses false low = and.encloses false low ∧
        between.encloses true high = and.encloses true high := by
  simp [keepsRight, core]

/-- A bound of a range has parentheses where an operand of `AND` has them. -/
theorem encloses_between_of_and {onRight : Bool}
    (enclosed : and.encloses onRight node) :
    between.encloses onRight node := by
  change needsParentheses .and (some and) onRight node at enclosed
  change needsParentheses .range (some between) onRight node
  unfold needsParentheses at *
  cases binding : node.binding? with
  | none => simp [binding] at enclosed
  | some own =>
      obtain ⟨own, own?⟩ := own
      simp only [binding] at enclosed ⊢
      by_cases same : own = .and
      · subst same
        have merges : own? = some and := Node.own_of_connective rfl binding
        subst merges
        simp [Precedence.isChainable, isAssociative] at enclosed
      · rw [if_neg same] at enclosed
        cases own <;> simp_all [Precedence.rank]

end BinaryOperator

/-! ## Texts in parentheses -/

/-- A text, in parentheses if it has to be. -/
def Text.enclosed (inParentheses : Bool) (text : String) : String :=
  if inParentheses then "(" ++ text ++ ")" else text

section

variable {inParentheses : Bool}

theorem Text.length_enclosed (text : String) :
    (enclosed inParentheses text).length =
      text.length + 2 * inParentheses.toNat := by
  cases inParentheses with
  | false => rfl
  | true =>
      have marks : "(".length = 1 ∧ ")".length = 1 := ⟨rfl, rfl⟩
      simp only [enclosed, if_true, String.length_append, Bool.toNat_true]
      omega

theorem Text.enclosed_eq_iff {text : String} :
    enclosed inParentheses text = text ↔ inParentheses = false := by
  constructor
  · intro bare
    have lengths := congrArg String.length bare
    rw [length_enclosed] at lengths
    cases inParentheses with
    | false => rfl
    | true => simp at lengths
  · rintro rfl
    rfl

/-- Two texts with a joint between them stay the same with fewer parentheses
only if none are left out. -/
theorem Text.enclosed_pair_eq_iff {left left' right right' : Bool}
    (leftMore : left' → left) (rightMore : right' → right)
    (first joint second : String) :
    enclosed left first ++ (joint ++ enclosed right second) =
        enclosed left' first ++ (joint ++ enclosed right' second) ↔
      left = left' ∧ right = right' := by
  constructor
  · intro equal
    have lengths := congrArg String.length equal
    simp only [String.length_append, length_enclosed] at lengths
    have ordered : ∀ more less : Bool, (less → more) →
        less.toNat ≤ more.toNat := by decide
    have injective : ∀ one other : Bool, one.toNat = other.toNat →
        one = other := by decide
    have leftOrdered := ordered _ _ leftMore
    have rightOrdered := ordered _ _ rightMore
    exact ⟨injective _ _ (by omega), injective _ _ (by omega)⟩
  · rintro ⟨rfl, rfl⟩
    rfl

theorem Position.place_write {position : Position} {node : Node}
    (text : String) :
    position.place node (.write text) =
      .write (position.separator ++
        Text.enclosed (position.parenthesizes node) text) := by
  unfold place Text.enclosed
  split <;> simp [String.append_assoc]

end

namespace Config

variable {config : Config} {kind sign sql : String} {operator : BinaryOperator}
  {left right operand : Node}

/-- The kind is registered with a sign before its operand. -/
def SignsBefore (config : Config) (kind sign : String) : Prop :=
  UnaryOperator.ofKind? kind = none ∧
    config.operators.form? kind = some (.prefixed sign)

/-- The kind is registered with a sign behind its operand. -/
def SignsBehind (config : Config) (kind sign : String) : Prop :=
  UnaryOperator.ofKind? kind = none ∧
    config.operators.form? kind = some (.postfixed sign)

/-- A column, a core operator between two operands, or a registered operator
with a sign, whatever the operands are. -/
def IsOperation (config : Config) : Node → Prop
  | .column .. => True
  | .binary kind _ _ => (BinaryOperator.ofKind? kind).isSome
  | .unary kind _ =>
    ∃ sign, config.SignsBefore kind sign ∨ config.SignsBehind kind sign
  | _ => False

theorem binding?_of_unregistered (own : UnaryOperator.ofKind? kind = none) :
    (Node.unary kind operand).binding? = none := by
  unfold Node.binding?
  split
  next same => cases same
  next same =>
    cases same
    cases own
  next => rfl

/-- Beside another operator, a sign and its operand get no parentheses. -/
theorem renderAt_unary (own : UnaryOperator.ofKind? kind = none)
    (position : Position) :
    config.renderAt position (.unary kind operand) =
      .write position.separator ++
        config.renderAt .free (.unary kind operand) := by
  have whole : position.takesApart (.unary kind operand) = false := by
    cases position with
    | chained other leads => cases other <;> rfl
    | _ => rfl
  have bare : position.parenthesizes (.unary kind operand) = false := by
    cases position <;>
      simp [Position.parenthesizes, needsParentheses,
        binding?_of_unregistered own]
  rw [renderAt_eq_place whole, Position.place, bare]
  rfl

theorem renderAt_signed_before (signed : config.SignsBefore kind sign) :
    config.renderAt .free (.unary kind operand) =
      .write sign ++ config.renderAt .free operand := by
  obtain ⟨definition, found, form⟩ :=
    Registry.find_of_form?_eq_some signed.2
  rw [renderAt.eq_def]
  simp only [place_free, signed.1, found, form]

theorem renderAt_signed_behind (signed : config.SignsBehind kind sign) :
    config.renderAt .free (.unary kind operand) =
      config.renderAt .free operand ++ .write sign := by
  obtain ⟨definition, found, form⟩ :=
    Registry.find_of_form?_eq_some signed.2
  rw [renderAt.eq_def]
  simp only [place_free, signed.1, found, form]

theorem renderAt_binary (core : BinaryOperator.ofKind? kind = some operator)
    (present : right.isNull = false) :
    config.renderAt .free (.binary kind left right) =
      config.renderAt operator.leftPosition left ++
        (.write operator.joint ++
          config.renderAt operator.rightPosition right) := by
  by_cases connective : operator.isConnective
  · simp only [renderAt_connective connective core, connective, if_true,
      BinaryOperator.leftPosition, BinaryOperator.rightPosition,
      BinaryOperator.joint]
    exact congrArg _ (Rendering.empty_append _).symm
  · rw [renderAt_core core (by simp), if_neg connective, place_free]
    simp only [renderRight, present, connective, Bool.and_false,
      BinaryOperator.leftPosition, BinaryOperator.rightPosition,
      BinaryOperator.joint, Bool.false_eq_true, if_false]
    split <;> rfl

theorem renderAt_bounds (core : BinaryOperator.ofKind? kind = some .and) :
    config.renderAt .bounds (.binary kind left right) =
      config.renderAt (.operand .range (some .between) false) left ++
        (.write " AND " ++
          config.renderAt (.operand .range (some .between) true) right) := by
  simp only [renderAt, core, Rendering.append_assoc]

/-- A node that has a text where it stands has one on its own. -/
theorem exists_own_text {position : Position} {node : Node} {text : String}
    (whole : position.takesApart node = false)
    (written : config.renderAt position node = .write text) :
    ∃ own, config.renderAt .free node = .write own ∧
      text = position.separator ++
        Text.enclosed (position.parenthesizes node) own := by
  rw [renderAt_eq_place whole] at written
  have success := Rendering.exists_write_iff.mp ⟨text, written⟩
  rw [Rendering.error?_place] at success
  obtain ⟨own, alone⟩ := Rendering.exists_write_iff.mpr success
  rw [alone, Position.place_write] at written
  exact ⟨own, alone, (Rendering.write_injective written).symm⟩

/-- The bounds of a range have the text of a conjunction exactly if they have
its parentheses. -/
theorem bounds_text {text : String} {low high : Node}
    (core : BinaryOperator.ofKind? kind = some .and)
    (written : config.renderAt .bounds (.binary kind low high) =
      .write text) :
    ∃ own, config.renderAt .free (.binary kind low high) = .write own ∧
      (text = own ↔
        BinaryOperator.between.keepsRight (.binary kind low high)) := by
  let first := Position.chained .and true
  let second := Position.chained .and false
  rw [renderAt_bounds core] at written
  obtain ⟨lowText, rest, lowWritten, restWritten, rfl⟩ :=
    Rendering.append_eq_write written
  obtain ⟨between, highText, betweenWritten, highWritten, rfl⟩ :=
    Rendering.append_eq_write restWritten
  cases betweenWritten
  obtain ⟨lowOwn, lowAlone, rfl⟩ := exists_own_text rfl lowWritten
  obtain ⟨highOwn, highAlone, rfl⟩ := exists_own_text rfl highWritten
  have alone : config.renderAt .free (.binary kind low high) =
      .write (Text.enclosed (first.parenthesizes low) lowOwn ++
        (" AND " ++
          Text.enclosed (second.parenthesizes high) highOwn)) := by
    have lowPlaced : config.renderAt first low =
        first.place low (config.renderAt .free low) := renderAt_eq_place rfl
    have highPlaced : config.renderAt second high =
        second.place high (config.renderAt .free high) := renderAt_eq_place rfl
    rw [renderAt_connective rfl core, lowPlaced, highPlaced, lowAlone,
      highAlone, Position.place_write, Position.place_write]
    simp [first, second, Position.separator, BinaryOperator.symbol]
  refine ⟨_, alone, ?_⟩
  rw [BinaryOperator.keepsRight_bounds core]
  simp only [Position.separator, String.empty_append]
  exact Text.enclosed_pair_eq_iff BinaryOperator.encloses_between_of_and
    BinaryOperator.encloses_between_of_and lowOwn " AND " highOwn

theorem takesApart_of_isOperation {position : Position} {node : Node}
    (operation : config.IsOperation node)
    (inside : position = .bounds → node.isBinaryOf .and = false) :
    position.takesApart node = false := by
  cases position with
  | bounds => exact inside rfl
  | chained other leads =>
      cases node with
      | group inner => cases operation
      | _ => cases other <;> rfl
  | _ => rfl

/-- The right operand of an operator has its own text exactly if the operator
keeps it. -/
theorem right_text {text : String} (rightOperation : config.IsOperation right)
    (written : config.renderAt operator.rightPosition right = .write text) :
    ∃ own, config.renderAt .free right = .write own ∧
      (text = operator.rightPosition.separator ++ own ↔
        operator.keepsRight right) := by
  by_cases bounds : operator = .between ∧ right.isBinaryOf .and
  · obtain ⟨rfl, conjunction⟩ := bounds
    cases right with
    | binary kind low high =>
        have core : BinaryOperator.ofKind? kind = some .and := by
          simpa [Node.isBinaryOf] using conjunction
        obtain ⟨own, alone, same⟩ := bounds_text core written
        have none :
            BinaryOperator.between.rightPosition.separator = "" := rfl
        refine ⟨own, alone, ?_⟩
        rw [none, String.empty_append]
        exact same
    | _ => cases conjunction
  · have whole : operator.rightPosition.takesApart right = false := by
      apply takesApart_of_isOperation rightOperation
      intro behind
      have between : operator = .between := by
        unfold BinaryOperator.rightPosition at behind
        split at behind
        · cases behind
        · split at behind
          next same => exact same
          next => cases behind
      simpa [between] using bounds
    obtain ⟨own, alone, rfl⟩ := exists_own_text whole written
    refine ⟨own, alone, ?_⟩
    rw [String.append_right_inj, Text.enclosed_eq_iff,
      BinaryOperator.parenthesizes_rightPosition,
      BinaryOperator.keepsRight_whole bounds, Bool.not_eq_true']

/-- A sign on a pair is written as a sign on the operand beside it exactly if
the operator of the pair keeps that operand without parentheses. -/
theorem render_sign_eq_iff
    (core : BinaryOperator.ofKind? kind = some operator)
    (leftOperation : config.IsOperation left)
    (rightOperation : config.IsOperation right)
    (rendered : config.render (.binary kind left right) = .ok sql) :
    (∀ outer sign, config.SignsBefore outer sign →
      (config.render (.unary outer (.binary kind left right)) =
          config.render (.binary kind (.unary outer left) right) ↔
        operator.keepsLeft left)) ∧
      ∀ outer sign, config.SignsBehind outer sign →
        (config.render (.unary outer (.binary kind left right)) =
            config.render (.binary kind left (.unary outer right)) ↔
          operator.keepsRight right) := by
  have present : right.isNull = false := by
    cases right with
    | literal value sqlType? => cases rightOperation
    | _ => rfl
  have written := Rendering.result_eq_ok_iff.mp rendered
  rw [rendering, renderAt_binary core present] at written
  obtain ⟨leftText, rest, leftWritten, restWritten, rfl⟩ :=
    Rendering.append_eq_write written
  obtain ⟨joint, rightText, jointWritten, rightWritten, rfl⟩ :=
    Rendering.append_eq_write restWritten
  cases jointWritten
  constructor
  · intro outer sign signed
    -- Both texts begin with the sign and end with what follows the left
    -- operand, so they differ in the parentheses of that operand alone.
    have whole : operator.leftPosition.takesApart left = false := by
      apply takesApart_of_isOperation leftOperation
      intro behind
      unfold BinaryOperator.leftPosition at behind
      split at behind <;> cases behind
    obtain ⟨own, alone, same⟩ := exists_own_text whole leftWritten
    have outside : config.rendering (.unary outer (.binary kind left right)) =
        .write (sign ++ (leftText ++ (operator.joint ++ rightText))) := by
      rw [rendering, renderAt_signed_before signed,
        renderAt_binary core present, leftWritten, rightWritten]
      rfl
    have inside : config.rendering (.binary kind (.unary outer left) right) =
        .write (sign ++ own ++ (operator.joint ++ rightText)) := by
      rw [rendering, renderAt_binary core present, renderAt_unary signed.1,
        renderAt_signed_before signed, alone, rightWritten,
        BinaryOperator.separator_leftPosition]
      simp
    unfold render
    rw [outside, inside, Rendering.result_write_inj, String.append_assoc,
      String.append_right_inj, String.append_left_inj, same,
      BinaryOperator.separator_leftPosition, String.empty_append,
      Text.enclosed_eq_iff, BinaryOperator.parenthesizes_leftPosition,
      BinaryOperator.keepsLeft, Bool.not_eq_true']
  · intro outer sign signed
    obtain ⟨own, alone, same⟩ := right_text rightOperation rightWritten
    have outside : config.rendering (.unary outer (.binary kind left right)) =
        .write (leftText ++ (operator.joint ++ rightText) ++ sign) := by
      rw [rendering, renderAt_signed_behind signed,
        renderAt_binary core present, leftWritten, rightWritten]
      rfl
    have inside : config.rendering (.binary kind left (.unary outer right)) =
        .write (leftText ++ (operator.joint ++
          (operator.rightPosition.separator ++ own)) ++ sign) := by
      rw [rendering, renderAt_binary core rfl, renderAt_unary signed.1,
        renderAt_signed_behind signed, alone, leftWritten]
      simp [String.append_assoc]
    unfold render
    rw [outside, inside, Rendering.result_write_inj, String.append_left_inj,
      String.append_right_inj, String.append_right_inj]
    exact same

/-- A sign before a sum is one before its first summand, but a factorial of a
sum in a product is not one of the product. -/
theorem render_sign_eq_iff_sum :
    let config : Config := { postgres with
      operators := (postgres.operators.define "abs"
        ⟨.prefixed "@ ", none, none⟩).define "fact"
          ⟨.postfixed "!", none, none⟩ }
    let a : Node := .column (some "t") "a"
    let b : Node := .column (some "t") "b"
    let sum : Node := .binary "+" a b
    config.render (.unary "abs" sum) =
        config.render (.binary "+" (.unary "abs" a) b) ∧
      config.render (.unary "abs" sum) =
        .ok "@ \"t\".\"a\" + \"t\".\"b\"" ∧
      config.render (.unary "fact" (.binary "*" a sum)) ≠
        config.render (.binary "*" a (.unary "fact" sum)) := by
  intro config a b sum
  have before : config.SignsBefore "abs" "@ " := ⟨rfl, rfl⟩
  have behind : config.SignsBehind "fact" "!" := ⟨rfl, rfl⟩
  have sumText : config.render sum =
      .ok "\"t\".\"a\" + \"t\".\"b\"" := rfl
  have productText : config.render (.binary "*" a sum) =
      .ok "\"t\".\"a\" * (\"t\".\"a\" + \"t\".\"b\")" := rfl
  have first : config.IsOperation a := trivial
  have second : config.IsOperation b := trivial
  have both : config.IsOperation sum := rfl
  have sums := render_sign_eq_iff rfl first second sumText
  have products := render_sign_eq_iff rfl first both productText
  refine ⟨(sums.1 "abs" "@ " before).mpr rfl, rfl, ?_⟩
  intro same
  have kept := (products.2 "fact" "!" behind).mp same
  cases kept

end Config

end SqlExpr
