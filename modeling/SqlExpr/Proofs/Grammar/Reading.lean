import SqlExpr.Proofs.Grammar.Reader

/-!
# Terms are read as they are written

Reading the tokens of a term gives the term back, with operands moved to the
left where operators of one rank follow each other.  A term is read on its own
only before tokens that do not hold on to it; `grip` measures how tightly they
do.
-/

namespace SqlExpr.Grammar

open SqlExpr.Lexis

namespace OperatorTable

variable {table : OperatorTable} {level : Nat} {rest : List Token}

/-! ## What holds on to an operand -/

theorem head?_ne_of_grip
    (loose : table.grip rest ≤ Precedence.multiplicative.rank + 2) :
    rest.head? ≠ some .call ∧ rest.head? ≠ some (.mark '.') := by
  constructor
  · intro same
    obtain ⟨more, rfl⟩ := List.head?_eq_some_iff.mp same
    simp [grip] at loose
  · intro same
    obtain ⟨more, rfl⟩ := List.head?_eq_some_iff.mp same
    simp [grip] at loose

theorem grip_ne_not (tokens : List Token) :
    table.grip tokens ≠ Precedence.not.rank + 1 := by
  unfold grip
  split
  · decide
  · decide
  · cases found : table.link? _ with
    | none => simp
    | some link => simpa using link.1.rank_ne_not

namespace IsDistinct

variable (distinct : table.IsDistinct)
include distinct

theorem grip_tokens (link : Link)
    (known : ∀ operator, link = .infixed operator → table.Knows operator)
    (rest : List Token) :
    table.grip (link.tokens table ++ rest) = link.rank + 1 := by
  have found := distinct.link?_tokens link known rest
  generalize link.tokens table ++ rest = tokens at found
  unfold grip
  split
  · have free := distinct.operator?_eq_none .call (.inr rfl)
    simp [link?, free] at found
  · have free := distinct.operator?_eq_none (.mark '.')
      (.inl (by decide))
    simp [link?, free] at found
  · simp [found]

theorem grip_eq_zero {token : Token}
    (ends : token ∈ [.word "WHEN", .word "THEN", .word "ELSE", .word "END",
      .mark ',', .mark ')']) : table.grip (token :: rest) = 0 := by
  have none := distinct.link?_eq_none rest ends
  unfold grip
  split
  next same =>
    cases same
    simp at ends
  next same =>
    cases same
    simp at ends
  next => simp [none]

end IsDistinct

/-! ## Terms are read as they are written -/

/-- The reader reads a term before all that does not hold on to a part of it,
and goes on with what is linked to it. -/
def IsRead (table : OperatorTable) (term : Term) : Prop :=
  ∀ level rest result, level ≤ term.rank → table.grip rest ≤ term.rank + 1 →
    table.ExtendsTo level term rest result →
      table.ClimbsTo level (term.tokens table ++ rest) result

theorem IsRead.alone {term : Term} (read : table.IsRead term)
    (tight : level ≤ term.rank) (loose : table.grip rest ≤ level) :
    table.ClimbsTo level (term.tokens table ++ rest) (term, rest) :=
  read level rest _ tight (by omega) (.stop loose)

section Reading

variable (distinct : table.IsDistinct)
include distinct

theorem itemsTo {items : List Term} (nonempty : items ≠ [])
    (read : ∀ item ∈ items, table.IsRead item) (rest : List Token) :
    table.ItemsTo
      ([.mark ','].intercalate (items.map (Term.tokens table)) ++
        .mark ')' :: rest) (items, rest) := by
  have comma (more : List Token) : table.grip (.mark ',' :: more) = 0 :=
    distinct.grip_eq_zero (by simp)
  have closing : table.grip (.mark ')' :: rest) = 0 :=
    distinct.grip_eq_zero (by simp)
  induction items with
  | nil => exact absurd rfl nonempty
  | cons item items induction =>
      rw [List.forall_mem_cons] at read
      obtain ⟨itemRead, othersRead⟩ := read
      cases items with
      | nil =>
          apply ItemsTo.last
          simpa using itemRead.alone (Nat.zero_le _) closing.le
      | cons next items =>
          have others := induction (by simp) othersRead
          have first := itemRead.alone (Nat.zero_le _) (comma
            ([.mark ','].intercalate ((next :: items).map (Term.tokens table))
              ++ .mark ')' :: rest)).le
          have split : [.mark ','].intercalate
              ((item :: next :: items).map (Term.tokens table)) ++
                .mark ')' :: rest =
              item.tokens table ++ .mark ',' ::
                ([.mark ','].intercalate
                  ((next :: items).map (Term.tokens table)) ++
                    .mark ')' :: rest) := by
            simp [List.intercalate_cons_cons]
          rw [split]
          exact .next first (by simp; omega) others

theorem branchesTo {branches : List (Term × Term)}
    (conditions : ∀ branch ∈ branches, table.IsRead branch.1)
    (results : ∀ branch ∈ branches, table.IsRead branch.2)
    {rest : List Token} (other : rest.head? ≠ some (.word "WHEN"))
    (ends : table.grip rest = 0) :
    table.BranchesTo (Term.tokensOfBranches table branches ++ rest)
      (branches, rest) := by
  induction branches with
  | nil => exact .none other
  | cons branch branches induction =>
      rw [List.forall_mem_cons] at conditions results
      have loose :
          table.grip (Term.tokensOfBranches table branches ++ rest) = 0 := by
        cases branches with
        | nil => exact ends
        | cons next branches => exact distinct.grip_eq_zero (by simp)
      have then_ : table.grip (.word "THEN" :: (branch.2.tokens table ++
          (Term.tokensOfBranches table branches ++ rest))) = 0 :=
        distinct.grip_eq_zero (by simp)
      have condition := conditions.1.alone (Nat.zero_le _) then_.le
      have result := results.1.alone (Nat.zero_le _) loose.le
      have others := induction conditions.2 results.2
      simp only [Term.tokensOfBranches, List.cons_append, List.append_assoc]
      exact .next condition (by simp; omega) result (by simp) others

namespace IsRead

/-! Each constructor of a term is read if its parts are: those that end where
they say, and those that are read on behind an operand. -/

omit distinct in
theorem ofOperand {term : Term} (nonempty : term.tokens table ≠ [])
    (has : ∀ level rest, level ≤ term.rank →
      table.grip rest ≤ term.rank + 1 →
        table.HasOperand level (term.tokens table ++ rest) (term, rest)) :
    table.IsRead term := by
  intro level rest result low loose more
  have long := List.length_pos_of_ne_nil nonempty
  exact .ofOperand (by simp; omega) (has level rest low loose) more

/-- The reader comes to a link with the operand before it, if the link takes
that. -/
theorem linked {operand : Term} (read : table.IsRead operand) (link : Link)
    (known : ∀ operator, link = .infixed operator → table.Knows operator)
    (taken : operand.isTakenBy link.precedence) (low : level ≤ link.rank)
    {result : Term × List Token}
    (more : table.ExtendsTo level operand (link.tokens table ++ rest) result) :
    table.ClimbsTo level
      (operand.tokens table ++ (link.tokens table ++ rest)) result := by
  have ranks : link.rank ≤ operand.rank := Term.rank_le_of_isTakenBy taken
  refine read level _ result (low.trans ranks) ?_ more
  rw [distinct.grip_tokens link known]
  exact Nat.succ_le_succ ranks

omit distinct in
theorem literal {tokens : List Token} (literal : IsLiteral tokens) :
    table.IsRead (.atom tokens) := by
  refine .ofOperand ?_ fun level rest _ loose => ?_
  · cases literal <;> simp [Term.tokens]
  · exact .literal literal (head?_ne_of_grip loose).1

omit distinct in
theorem reference {tokens : List Token} (reference : IsReference tokens) :
    table.IsRead (.atom tokens) := by
  refine .ofOperand ?_ fun level rest _ loose => ?_
  · cases reference <;> simp [Term.tokens]
  · exact .reference reference (head?_ne_of_grip loose).2

theorem infixed {operator : InfixOperator} {left right : Term}
    (known : table.Knows operator)
    (taken : left.isTakenBy operator.precedence)
    (tight : Term.IsTight operator right) (leftRead : table.IsRead left)
    (rightRead : table.IsRead right) :
    table.IsRead (.infixed operator left right) := by
  intro level rest result low loose more
  have link : ∀ own, Link.infixed operator = .infixed own →
      table.Knows own := by
    rintro own ⟨⟩
    exact known
  have operand := rightRead.alone tight loose
  simp only [Term.tokens, List.append_assoc]
  exact leftRead.linked distinct (.infixed operator) link taken low
    (.infixed distinct known low taken (by simp) operand more)

theorem nullTest {negated : Bool} {operand : Term}
    (taken : operand.isTakenBy .comparison) (read : table.IsRead operand) :
    table.IsRead (.nullTest negated operand) := by
  intro level rest result low _ more
  simp only [Term.tokens, List.append_assoc]
  exact read.linked distinct (.nullTest negated) (by rintro own ⟨⟩) taken low
    (.nullTest distinct low taken more)

theorem between {operand low high : Term} (taken : operand.isTakenBy .range)
    (lowTight : Precedence.range.rank < low.rank)
    (highTight : Precedence.range.rank < high.rank)
    (read : table.IsRead operand) (lowRead : table.IsRead low)
    (highRead : table.IsRead high) :
    table.IsRead (.between operand low high) := by
  intro level rest result below loose more
  -- The first bound ends at AND, which binds less tightly than BETWEEN.
  have and : table.grip (.word "AND" :: (high.tokens table ++ rest)) =
      Precedence.and.rank + 1 :=
    distinct.grip_tokens (.infixed (.core .and))
      (by
        rintro own ⟨⟩
        change BinaryOperator.and ∈ plainOperators
        decide) _
  have first : table.ClimbsTo (Precedence.range.rank + 1)
      (low.tokens table ++ .word "AND" :: (high.tokens table ++ rest)) _ :=
    lowRead.alone lowTight (by rw [and]; decide)
  have second := highRead.alone highTight loose
  simp only [Term.tokens, List.append_assoc, List.cons_append]
  exact read.linked distinct .between (by rintro own ⟨⟩) taken below
    (.between distinct below taken first (by simp; omega) second (by simp)
      more)

theorem member {negated : Bool} {operand : Term} {items : List Term}
    (taken : operand.isTakenBy .range) (nonempty : items ≠ [])
    (read : table.IsRead operand)
    (itemsRead : ∀ item ∈ items, table.IsRead item) :
    table.IsRead (.member negated operand items) := by
  intro level rest result below _ more
  have list := itemsTo distinct nonempty itemsRead rest
  simp only [Term.tokens, Term.tokensOfAll_eq_map, List.append_assoc,
    List.singleton_append]
  exact read.linked distinct (.member negated) (by rintro own ⟨⟩) taken below
    (.member distinct below taken list (by simp; omega) more)

omit distinct in
theorem negation {operand : Term} (tight : Precedence.not.rank ≤ operand.rank)
    (bare : ∀ rest, (operand.tokens table ++ rest).head? ≠ some .call)
    (read : table.IsRead operand) : table.IsRead (.negation operand) := by
  refine .ofOperand (by simp [Term.tokens]) fun level rest low loose => ?_
  have stops : table.grip rest ≤ Precedence.not.rank :=
    Nat.le_of_lt_succ (lt_of_le_of_ne loose (grip_ne_not rest))
  exact .negation low (bare rest) (read.alone tight stops)

theorem call {name : String} {arguments : List Term}
    (open_ : ∀ argument ∈ arguments, ∀ rest,
      (argument.tokens table ++ rest).head? ≠ some (.mark ')'))
    (read : ∀ argument ∈ arguments, table.IsRead argument) :
    table.IsRead (.call name arguments) := by
  refine .ofOperand (by simp [Term.tokens]) fun level rest _ _ => ?_
  simp only [Term.tokens, Term.tokensOfAll_eq_map, List.append_assoc,
    List.cons_append, List.nil_append]
  cases arguments with
  | nil => exact .call_nil
  | cons argument arguments =>
      have items := itemsTo distinct (List.cons_ne_nil _ _) read rest
      obtain ⟨more, first⟩ : ∃ more, [.mark ','].intercalate
          ((argument :: arguments).map (Term.tokens table)) =
            argument.tokens table ++ more := by
        cases arguments with
        | nil => exact ⟨[], by simp⟩
        | cons next arguments =>
            exact ⟨_, by rw [List.map_cons, List.map_cons,
              List.intercalate_cons_cons, List.append_assoc]⟩
      refine .call ?_ items
      rw [first, List.append_assoc]
      exact open_ argument List.mem_cons_self _

theorem caseWhen {branches : List (Term × Term)} {otherwise? : Option Term}
    (nonempty : branches ≠ [])
    (conditions : ∀ branch ∈ branches, table.IsRead branch.1)
    (results : ∀ branch ∈ branches, table.IsRead branch.2)
    (otherwise : ∀ result ∈ otherwise?, table.IsRead result) :
    table.IsRead (.caseWhen branches otherwise?) := by
  refine .ofOperand (by simp [Term.tokens]) fun level rest _ _ => ?_
  have ends (more : List Token) : table.grip (.word "END" :: more) = 0 :=
    distinct.grip_eq_zero (by simp)
  have else_ (more : List Token) : table.grip (.word "ELSE" :: more) = 0 :=
    distinct.grip_eq_zero (by simp)
  obtain ⟨branch, others, rfl⟩ := List.exists_cons_of_ne_nil nonempty
  simp only [Term.tokens, List.append_assoc, List.cons_append,
    List.nil_append]
  cases otherwise? with
  | none =>
      exact .caseWhen (branchesTo distinct conditions results
        (by simp [Term.tokensOfElse]) (ends rest))
  | some result =>
      have first := branchesTo distinct conditions results (by simp)
        (else_ (result.tokens table ++ .word "END" :: rest))
      have last := (otherwise result rfl).alone (Nat.zero_le _) (ends rest).le
      exact .caseElse first (by simp [Term.tokensOfElse]; omega) last

theorem grouped {inner : Term} (read : table.IsRead inner) :
    table.IsRead (.grouped inner) := by
  refine .ofOperand (by simp [Term.tokens]) fun level rest _ _ => ?_
  have ends : table.grip (.mark ')' :: rest) = 0 :=
    distinct.grip_eq_zero (by simp)
  simp only [Term.tokens, List.cons_append, List.append_assoc,
    List.nil_append]
  exact .grouped (read.alone (Nat.zero_le _) ends.le)

end IsRead

/-- A term without needless freedom is read back. -/
theorem isRead {term : Term} (grouped : term.IsGrouped table Term.IsTight) :
    table.IsRead term := by
  induction grouped with
  | literal literal => exact .literal literal
  | reference reference => exact .reference reference
  | infixed known taken tight _ _ left right =>
      exact .infixed distinct known taken tight left right
  | nullTest taken _ operand => exact .nullTest distinct taken operand
  | between taken lowTight highTight _ _ _ operand low high =>
      exact .between distinct taken lowTight highTight operand low high
  | member taken nonempty _ _ operand items =>
      exact .member distinct taken nonempty operand items
  | negation tight grouped operand =>
      exact .negation tight (grouped.head?_ne rfl) operand
  | call name grouped arguments =>
      exact .call distinct
        (fun argument among => (grouped argument among).head?_ne rfl) arguments
  | caseWhen nonempty _ _ _ conditions results otherwise =>
      exact .caseWhen distinct nonempty conditions results otherwise
  | grouped _ inner => exact .grouped distinct inner

/-- A term that nothing in it takes apart is read as it is. -/
theorem read?_of_isTight {term : Term}
    (grouped : term.IsGrouped table Term.IsTight) :
    table.read? (term.tokens table) = some term := by
  have climbs := (isRead distinct grouped).alone (Nat.zero_le _)
    (show table.grip [] ≤ 0 from Nat.le_refl 0)
  rw [List.append_nil] at climbs
  simp only [read?, climbs _ (Nat.le_refl _)]

/-- The tokens of a term whose operators can be read from left to right are
read, and as that. -/
theorem read?_tokens {allowed : InfixOperator → Term → Prop}
    (readable : ∀ operator right, allowed operator right →
      Term.IsReadable operator right)
    {term : Term} (grouped : term.IsGrouped table allowed) :
    table.read? (term.tokens table) = some term.reading := by
  rw [← Term.tokens_reading grouped]
  exact read?_of_isTight distinct (Term.isGrouped_reading readable grouped)

/-- Nothing is read if an operator follows that cannot have the term on its
left, though it binds as tightly. -/
theorem read?_eq_none {operator : InfixOperator} {left : Term}
    (known : table.Knows operator)
    (grouped : left.IsGrouped table Term.IsTight)
    (same : operator.rank = left.rank)
    (refused : left.isTakenBy operator.precedence = false)
    (rest : List Token) :
    table.read? (left.tokens table ++
      ((Link.infixed operator).tokens table ++ rest)) = none := by
  have link : ∀ own, Link.infixed operator = .infixed own →
      table.Knows own := by
    rintro own ⟨⟩
    exact known
  have loose : table.grip ((Link.infixed operator).tokens table ++ rest) ≤
      left.rank + 1 := by
    rw [distinct.grip_tokens _ link, ← same]
    rfl
  have climbs := isRead distinct grouped 0 _ _ (Nat.zero_le _) loose
    (.refuse distinct known refused)
  have remains : (Link.infixed operator).tokens table ++ rest ≠ [] :=
    List.cons_ne_nil _ _
  unfold read?
  rw [climbs _ (Nat.le_refl _)]
  split
  next whole =>
    have none := congrArg Prod.snd (Option.some.inj whole)
    exact absurd none remains
  next => rfl

end Reading

end OperatorTable

end SqlExpr.Grammar
