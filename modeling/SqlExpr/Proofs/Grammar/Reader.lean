import SqlExpr.Proofs.Grammar.Term

/-!
# Reading terms

A reader for tokens that climbs the ranks of the operators: it reads an
operand, and then the links behind it for as long as they bind at least as
tightly as the level that it is at.  Operators associate to the left, and those
of the comparison and range ranks not at all.

The fuel bounds the calls.  There is always enough of it for the tokens that
`read?` is given, and the lemmas about the parts of the reader say so by asking
for no more than some multiple of the tokens.
-/

namespace SqlExpr.Grammar

open SqlExpr.Lexis

def reference? : List Token → Option (List Token × List Token)
  | .name content :: .mark '.' :: rest =>
    (reference? rest).map fun (names, rest) =>
      (.name content :: .mark '.' :: names, rest)
  | .name content :: rest => some ([.name content], rest)
  | _ => none

def atom? : List Token → Option (List Token × List Token)
  | .number digits :: rest => some ([.number digits], rest)
  | .operator "-" :: .number digits :: rest =>
    some ([.operator "-", .number digits], rest)
  | .text content :: rest => some ([.text content], rest)
  | .word word :: rest =>
    if word ∈ ["NULL", "TRUE", "FALSE"] then some ([.word word], rest)
    else none
  | tokens => reference? tokens

namespace OperatorTable

variable (table : OperatorTable)

mutual

/-- Read an operand and all that is linked to it at some level. -/
def climb : Nat → Nat → List Token → Option (Term × List Token)
  | 0, _, _ => none
  | fuel + 1, level, tokens => do
    let (operand, rest) ← operand? fuel level tokens
    extend fuel level operand rest

/-- Read what no link stands in. -/
def operand? : Nat → Nat → List Token → Option (Term × List Token)
  | 0, _, _ => none
  | fuel + 1, level, tokens =>
    match tokens with
    | .word name :: .call :: .mark ')' :: rest => some (.call name [], rest)
    | .word name :: .call :: rest => do
      let (arguments, rest) ← items fuel rest
      some (.call name arguments, rest)
    | .mark '(' :: rest => do
      match ← climb fuel 0 rest with
      | (inner, .mark ')' :: rest) => some (.grouped inner, rest)
      | _ => none
    | .word "NOT" :: rest => do
      if level ≤ Precedence.not.rank then
        let (operand, rest) ← climb fuel Precedence.not.rank rest
        some (.negation operand, rest)
      else none
    | .word "CASE" :: .word "WHEN" :: rest => do
      match ← branches fuel (.word "WHEN" :: rest) with
      | (branches, .word "END" :: rest) => some (.caseWhen branches none, rest)
      | (branches, .word "ELSE" :: rest) => do
        match ← climb fuel 0 rest with
        | (result, .word "END" :: rest) =>
          some (.caseWhen branches (some result), rest)
        | _ => none
      | _ => none
    | tokens => do
      let (atom, rest) ← atom? tokens
      some (.atom atom, rest)

/-- Read what is linked to an operand at some level. -/
def extend : Nat → Nat → Term → List Token → Option (Term × List Token)
  | 0, _, _, _ => none
  | fuel + 1, level, left, tokens =>
    match table.link? tokens with
    | none => some (left, tokens)
    | some (link, rest) =>
      if level ≤ link.rank ∧ left.isTakenBy link.precedence then
        match link with
        | .infixed operator => do
          let (right, rest) ← climb fuel (operator.rank + 1) rest
          extend fuel level (.infixed operator left right) rest
        | .nullTest negated => extend fuel level (.nullTest negated left) rest
        | .between => do
          match ← climb fuel (Precedence.range.rank + 1) rest with
          | (low, .word "AND" :: rest) => do
            let (high, rest) ← climb fuel (Precedence.range.rank + 1) rest
            extend fuel level (.between left low high) rest
          | _ => none
        | .member negated => do
          let (items, rest) ← items fuel rest
          extend fuel level (.member negated left items) rest
      else some (left, tokens)

def items : Nat → List Token → Option (List Term × List Token)
  | 0, _ => none
  | fuel + 1, tokens => do
    match ← climb fuel 0 tokens with
    | (item, .mark ',' :: rest) => do
      let (items, rest) ← items fuel rest
      some (item :: items, rest)
    | (item, .mark ')' :: rest) => some ([item], rest)
    | _ => none

def branches : Nat → List Token → Option (List (Term × Term) × List Token)
  | 0, _ => none
  | fuel + 1, tokens =>
    match tokens with
    | .word "WHEN" :: rest => do
      match ← climb fuel 0 rest with
      | (condition, .word "THEN" :: rest) => do
        let (result, rest) ← climb fuel 0 rest
        let (branches, rest) ← branches fuel rest
        some ((condition, result) :: branches, rest)
      | _ => none
    | rest => some ([], rest)

end

-- This makes the equations of the recursion once, before the many lemmas that
-- need them.
attribute [local simp] climb operand? extend items branches

/-- The term that all of the tokens are read as. -/
def read? (tokens : List Token) : Option Term :=
  match table.climb (3 * tokens.length + 2) 0 tokens with
  | some (term, []) => some term
  | _ => none

/-! ## The parts of the reader

Each of these holds for all fuel from some multiple of the tokens on. -/

def ClimbsTo (level : Nat) (tokens : List Token)
    (result : Term × List Token) : Prop :=
  ∀ fuel, 3 * tokens.length + 2 ≤ fuel →
    table.climb fuel level tokens = some result

def HasOperand (level : Nat) (tokens : List Token)
    (result : Term × List Token) : Prop :=
  ∀ fuel, 3 * tokens.length + 1 ≤ fuel →
    table.operand? fuel level tokens = some result

def ExtendsTo (level : Nat) (left : Term) (tokens : List Token)
    (result : Term × List Token) : Prop :=
  ∀ fuel, 3 * tokens.length + 1 ≤ fuel →
    table.extend fuel level left tokens = some result

def ItemsTo (tokens : List Token) (result : List Term × List Token) : Prop :=
  ∀ fuel, 3 * tokens.length + 3 ≤ fuel → table.items fuel tokens = some result

def BranchesTo (tokens : List Token)
    (result : List (Term × Term) × List Token) : Prop :=
  ∀ fuel, 3 * tokens.length + 1 ≤ fuel →
    table.branches fuel tokens = some result

variable {table} {level : Nat} {tokens rest : List Token}
  {result : Term × List Token}

/-! A part of the reader has a result for all fuel from some amount on if one
step has it that leaves as much. -/

theorem forall_of_step {property : Nat → Prop} {bound : Nat}
    (step : ∀ fuel, bound ≤ fuel → property (fuel + 1)) :
    ∀ fuel, bound + 1 ≤ fuel → property fuel := by
  intro fuel enough
  cases fuel with
  | zero => omega
  | succ fuel => exact step fuel (Nat.le_of_succ_le_succ enough)

theorem HasOperand.ofStep
    (step : ∀ fuel, 3 * tokens.length ≤ fuel →
      table.operand? (fuel + 1) level tokens = some result) :
    table.HasOperand level tokens result :=
  forall_of_step step

theorem ExtendsTo.ofStep {left : Term}
    (step : ∀ fuel, 3 * tokens.length ≤ fuel →
      table.extend (fuel + 1) level left tokens = some result) :
    table.ExtendsTo level left tokens result :=
  forall_of_step step

theorem ItemsTo.ofStep {result : List Term × List Token}
    (step : ∀ fuel, 3 * tokens.length + 2 ≤ fuel →
      table.items (fuel + 1) tokens = some result) :
    table.ItemsTo tokens result :=
  forall_of_step step

theorem BranchesTo.ofStep {result : List (Term × Term) × List Token}
    (step : ∀ fuel, 3 * tokens.length ≤ fuel →
      table.branches (fuel + 1) tokens = some result) :
    table.BranchesTo tokens result :=
  forall_of_step step

theorem ClimbsTo.ofOperand {operand : Term}
    (shorter : rest.length < tokens.length)
    (reads : table.HasOperand level tokens (operand, rest))
    (more : table.ExtendsTo level operand rest result) :
    table.ClimbsTo level tokens result := by
  refine forall_of_step fun fuel enough => ?_
  have first := reads fuel (by omega)
  have second := more fuel (by omega)
  simp [first, second]

namespace HasOperand

theorem literal {atom : List Token} (literal : IsLiteral atom)
    (bare : rest.head? ≠ some .call) :
    table.HasOperand level (atom ++ rest) (.atom atom, rest) := by
  refine .ofStep fun fuel _ => ?_
  cases literal with
  | number | negative | text => simp [atom?]
  | keyword word known =>
      simp at known
      obtain rfl | rfl | rfl := known <;>
      · cases rest with
        | nil => simp [atom?]
        | cons token rest =>
            cases token with
            | call => exact absurd rfl bare
            | _ => simp [atom?]

theorem reference?_append {names : List Token} (reference : IsReference names)
    (ends : rest.head? ≠ some (.mark '.')) :
    reference? (names ++ rest) = some (names, rest) := by
  induction reference with
  | name content =>
      cases rest with
      | nil => rfl
      | cons token rest =>
          rw [List.singleton_append, reference?]
          rintro rest' same
          cases same
          exact ends rfl
  | qualified content names reference induction =>
      simp [reference?, induction]

theorem reference {names : List Token} (reference : IsReference names)
    (ends : rest.head? ≠ some (.mark '.')) :
    table.HasOperand level (names ++ rest) (.atom names, rest) := by
  refine .ofStep fun fuel _ => ?_
  have read := reference?_append reference ends
  cases reference with
  | name | qualified =>
      simp only [List.cons_append, List.nil_append] at read
      simp [atom?, read]

theorem call {name : String} {arguments : List Term}
    (open_ : tokens.head? ≠ some (.mark ')'))
    (items : table.ItemsTo tokens (arguments, rest)) :
    table.HasOperand level (.word name :: .call :: tokens)
      (.call name arguments, rest) := by
  refine .ofStep fun fuel enough => ?_
  have read := items fuel (by simp at enough; omega)
  rw [operand?]
  · simp [read]
  · rintro rest' rfl
    exact open_ rfl

theorem call_nil {name : String} :
    table.HasOperand level (.word name :: .call :: .mark ')' :: rest)
      (.call name [], rest) :=
  .ofStep fun _ _ => rfl

theorem grouped {inner : Term}
    (climbs : table.ClimbsTo 0 tokens (inner, .mark ')' :: rest)) :
    table.HasOperand level (.mark '(' :: tokens) (.grouped inner, rest) := by
  refine .ofStep fun fuel enough => ?_
  have read := climbs fuel (by simp at enough; omega)
  simp [read]

theorem negation {operand : Term} (loose : level ≤ Precedence.not.rank)
    (bare : tokens.head? ≠ some .call)
    (climbs : table.ClimbsTo Precedence.not.rank tokens (operand, rest)) :
    table.HasOperand level (.word "NOT" :: tokens)
      (.negation operand, rest) := by
  refine .ofStep fun fuel enough => ?_
  have read := climbs fuel (by simp at enough; omega)
  cases tokens with
  | nil => simp [loose, read]
  | cons token tokens =>
      cases token with
      | call => exact absurd rfl bare
      | _ => simp [loose, read]

theorem caseWhen {branches : List (Term × Term)}
    (reads : table.BranchesTo (.word "WHEN" :: tokens)
      (branches, .word "END" :: rest)) :
    table.HasOperand level (.word "CASE" :: .word "WHEN" :: tokens)
      (.caseWhen branches none, rest) := by
  refine .ofStep fun fuel enough => ?_
  have read := reads fuel (by simp at enough ⊢; omega)
  simp [read]

theorem caseElse {branches : List (Term × Term)} {last : Term}
    {more : List Token}
    (reads : table.BranchesTo (.word "WHEN" :: tokens)
      (branches, .word "ELSE" :: more))
    (shorter : more.length < tokens.length)
    (climbs : table.ClimbsTo 0 more (last, .word "END" :: rest)) :
    table.HasOperand level (.word "CASE" :: .word "WHEN" :: tokens)
      (.caseWhen branches (some last), rest) := by
  refine .ofStep fun fuel enough => ?_
  simp only [List.length_cons] at enough
  have read := reads fuel (by simp; omega)
  have last := climbs fuel (by omega)
  simp [read, last]

end HasOperand

/-- How tightly tokens hold on to an operand before them: by one more than the
rank of the link that they begin with. -/
def grip (table : OperatorTable) : List Token → Nat
  | .call :: _ | .mark '.' :: _ => Precedence.multiplicative.rank + 3
  | tokens => (table.link? tokens).elim 0 fun found => found.1.rank + 1

theorem rank_lt_grip {link : Link} (found : table.link? tokens = some (link, rest)) :
    link.rank < table.grip tokens := by
  have highest : link.rank ≤ Precedence.multiplicative.rank :=
    link.precedence.rank_le
  unfold grip
  split
  · omega
  · omega
  · simp [found]

namespace ExtendsTo

variable {left : Term}

theorem stop (loose : table.grip tokens ≤ level) :
    table.ExtendsTo level left tokens (left, tokens) := by
  refine .ofStep fun fuel enough => ?_
  rw [extend]
  cases found : table.link? tokens with
  | none => rfl
  | some link =>
      have tight := rank_lt_grip found
      have refused : ¬ (level ≤ link.1.rank ∧
          left.isTakenBy link.1.precedence) := by
        omega
      simp [refused]

variable (distinct : table.IsDistinct)
include distinct

/-- An operator that cannot have the operand on its left is not read. -/
theorem refuse {operator : InfixOperator} (known : table.Knows operator)
    (refused : left.isTakenBy operator.precedence = false) :
    table.ExtendsTo level left ((Link.infixed operator).tokens table ++ tokens)
      (left, (Link.infixed operator).tokens table ++ tokens) := by
  refine .ofStep fun fuel _ => ?_
  have found := distinct.link?_tokens (.infixed operator)
    (fun own same => by cases same; exact known) tokens
  have stays : ¬ (level ≤ (Link.infixed operator).rank ∧
      left.isTakenBy (Link.infixed operator).precedence) := by
    rintro ⟨_, taken⟩
    have own : left.isTakenBy operator.precedence = true := taken
    rw [refused] at own
    cases own
  simp [found, stays]

theorem infixed {operator : InfixOperator} {right : Term}
    (known : table.Knows operator) (tight : level ≤ operator.rank)
    (taken : left.isTakenBy operator.precedence)
    (shorter : rest.length ≤ tokens.length)
    (climbs : table.ClimbsTo (operator.rank + 1) tokens (right, rest))
    (more : table.ExtendsTo level (.infixed operator left right) rest result) :
    table.ExtendsTo level left
      ((Link.infixed operator).tokens table ++ tokens) result := by
  refine .ofStep fun fuel enough => ?_
  have found := distinct.link?_tokens (.infixed operator)
    (fun own same => by cases same; exact known) tokens
  simp only [Link.tokens, List.length_append, List.length_cons] at enough
  have right := climbs fuel (by omega)
  have last := more fuel (by omega)
  have goes : level ≤ (Link.infixed operator).rank ∧
      left.isTakenBy (Link.infixed operator).precedence := ⟨tight, taken⟩
  simp [found, goes, right, last]

theorem nullTest {negated : Bool}
    (tight : level ≤ Precedence.comparison.rank)
    (taken : left.isTakenBy .comparison)
    (more : table.ExtendsTo level (.nullTest negated left) tokens result) :
    table.ExtendsTo level left
      ((Link.nullTest negated).tokens table ++ tokens) result := by
  refine .ofStep fun fuel enough => ?_
  have found := distinct.link?_tokens (.nullTest negated) nofun tokens
  have goes : level ≤ (Link.nullTest negated).rank ∧
      left.isTakenBy (Link.nullTest negated).precedence := ⟨tight, taken⟩
  have last := more fuel (by
    cases negated <;> simp [Link.tokens] at enough <;> omega)
  simp [found, goes, last]

theorem between {low high : Term} {middle : List Token}
    (tight : level ≤ Precedence.range.rank)
    (taken : left.isTakenBy .range)
    (lowClimbs : table.ClimbsTo (Precedence.range.rank + 1) tokens
      (low, .word "AND" :: middle))
    (shorter : middle.length < tokens.length)
    (highClimbs : table.ClimbsTo (Precedence.range.rank + 1) middle
      (high, rest))
    (shortest : rest.length ≤ middle.length)
    (more : table.ExtendsTo level (.between left low high) rest result) :
    table.ExtendsTo level left (Link.between.tokens table ++ tokens)
      result := by
  refine .ofStep fun fuel enough => ?_
  have found := distinct.link?_tokens .between nofun tokens
  have goes : level ≤ Link.between.rank ∧
      left.isTakenBy Link.between.precedence := ⟨tight, taken⟩
  simp only [Link.tokens, List.length_append, List.length_cons] at enough
  have first := lowClimbs fuel (by omega)
  have second := highClimbs fuel (by omega)
  have last := more fuel (by omega)
  simp [found, goes, first, second, last]

theorem member {negated : Bool} {items : List Term}
    (tight : level ≤ Precedence.range.rank)
    (taken : left.isTakenBy .range)
    (read : table.ItemsTo tokens (items, rest))
    (shorter : rest.length ≤ tokens.length)
    (more : table.ExtendsTo level (.member negated left items) rest result) :
    table.ExtendsTo level left
      ((Link.member negated).tokens table ++ tokens) result := by
  refine .ofStep fun fuel enough => ?_
  have found := distinct.link?_tokens (.member negated) nofun tokens
  have goes : level ≤ (Link.member negated).rank ∧
      left.isTakenBy (Link.member negated).precedence := ⟨tight, taken⟩
  have long : 3 * tokens.length + 3 ≤ fuel := by
    cases negated <;> simp [Link.tokens] at enough <;> omega
  have first := read fuel long
  have last := more fuel (by omega)
  simp [found, goes, first, last]

end ExtendsTo

namespace ItemsTo

variable {item : Term} {items : List Term}

theorem last (climbs : table.ClimbsTo 0 tokens (item, .mark ')' :: rest)) :
    table.ItemsTo tokens ([item], rest) := by
  refine .ofStep fun fuel enough => ?_
  have read := climbs fuel (by omega)
  simp [read]

theorem next {more : List Token}
    (climbs : table.ClimbsTo 0 tokens (item, .mark ',' :: more))
    (shorter : more.length < tokens.length)
    (others : table.ItemsTo more (items, rest)) :
    table.ItemsTo tokens (item :: items, rest) := by
  refine .ofStep fun fuel enough => ?_
  have read := climbs fuel (by omega)
  have remaining := others fuel (by omega)
  simp [read, remaining]

end ItemsTo

namespace BranchesTo

theorem none (other : tokens.head? ≠ some (.word "WHEN")) :
    table.BranchesTo tokens ([], tokens) := by
  refine .ofStep fun fuel _ => ?_
  rw [branches]
  rintro rest rfl
  exact other rfl

theorem next {condition result : Term} {branches : List (Term × Term)}
    {middle more : List Token}
    (conditionClimbs : table.ClimbsTo 0 tokens
      (condition, .word "THEN" :: middle))
    (shorter : middle.length < tokens.length)
    (resultClimbs : table.ClimbsTo 0 middle (result, more))
    (shortest : more.length ≤ middle.length)
    (others : table.BranchesTo more (branches, rest)) :
    table.BranchesTo (.word "WHEN" :: tokens)
      ((condition, result) :: branches, rest) := by
  refine .ofStep fun fuel enough => ?_
  simp only [List.length_cons] at enough
  have first := conditionClimbs fuel (by omega)
  have second := resultClimbs fuel (by omega)
  have remaining := others fuel (by omega)
  simp [first, second, remaining]

end BranchesTo

end OperatorTable

end SqlExpr.Grammar
