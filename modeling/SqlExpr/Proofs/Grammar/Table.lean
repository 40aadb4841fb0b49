import SqlExpr.Operator.Core
import SqlExpr.Proofs.Lexis.Nesting

/-!
# Tables of operators

The operators that stand between two operands, and the tokens that they are
told by: the core operators have fixed ones, and a table gives the others
theirs.  A link is what can follow an operand, with the operators that have a
shape of their own among it: `IS NULL`, `BETWEEN` and `IN`.
-/

namespace SqlExpr.Grammar

open SqlExpr.Lexis

inductive InfixOperator where
  | core (operator : BinaryOperator)
  | registered (kind : String)
  deriving DecidableEq, Repr

namespace InfixOperator

def precedence : InfixOperator → Precedence
  | core operator => operator.precedence
  | registered _ => .other

def rank (operator : InfixOperator) : Nat := operator.precedence.rank

end InfixOperator

/-- The core operators that have one token between two operands. -/
def plainOperators : List BinaryOperator :=
  [.eq, .notEq, .lt, .ltEq, .gt, .gtEq, .and, .or, .like, .iLike, .plus,
    .minus, .multiply, .divide]

def operatorToken : BinaryOperator → Token
  | .and => .word "AND"
  | .or => .word "OR"
  | .like => .word "LIKE"
  | .iLike => .word "ILIKE"
  | operator => .operator operator.symbol

/-- The other tokens that can follow an operand. -/
def syntaxTokens : List Token :=
  [.word "IS", .word "NOT", .word "IN", .word "BETWEEN", .word "WHEN",
    .word "THEN", .word "ELSE", .word "END", .mark ',', .mark '.']

/-- The kinds of registered operators with their tokens. -/
structure OperatorTable where
  entries : List (String × Token)
  deriving Repr

namespace OperatorTable

/-- No two operators share a token, and none has a token of the syntax. -/
structure IsDistinct (table : OperatorTable) : Prop where
  injective : ∀ first ∈ table.entries, ∀ second ∈ table.entries,
    first.2 = second.2 → first = second
  plain : ∀ entry ∈ table.entries, entry.2.isPlain
  other : ∀ entry ∈ table.entries, entry.2 ∉ syntaxTokens
  registered : ∀ entry ∈ table.entries,
    entry.2 ∉ plainOperators.map operatorToken

variable (table : OperatorTable)

def kinds : List String := table.entries.map Prod.fst

def Knows : InfixOperator → Prop
  | .core operator => operator ∈ plainOperators
  | .registered kind => kind ∈ table.kinds

def token : InfixOperator → Token
  | .core operator => operatorToken operator
  | .registered kind =>
    ((table.entries.find? (·.1 = kind)).map Prod.snd).getD .comment

def operator? (token : Token) : Option InfixOperator :=
  match plainOperators.find? (operatorToken · = token) with
  | some operator => some (.core operator)
  | none =>
    (table.entries.find? (·.2 = token)).map fun entry => .registered entry.1

end OperatorTable

/-- What can follow an operand. -/
inductive Link where
  | infixed (operator : InfixOperator)
  /-- `IS NULL` or `IS NOT NULL` -/
  | nullTest (negated : Bool)
  | between
  /-- `IN (` or `NOT IN (` -/
  | member (negated : Bool)
  deriving DecidableEq, Repr

namespace Link

def precedence : Link → Precedence
  | infixed operator => operator.precedence
  | nullTest _ => .comparison
  | between | member _ => .range

def rank (link : Link) : Nat := link.precedence.rank

/-- `NOT` stands before its operand, and nothing else has its rank. -/
theorem rank_ne_not (link : Link) : link.rank ≠ Precedence.not.rank := by
  intro same
  cases link with
  | infixed operator =>
      cases operator with
      | core operator => cases operator <;> cases same
      | registered kind => cases same
  | _ => cases same

def tokens (table : OperatorTable) : Link → List Token
  | infixed operator => [table.token operator]
  | nullTest false => [.word "IS", .word "NULL"]
  | nullTest true => [.word "IS", .word "NOT", .word "NULL"]
  | between => [.word "BETWEEN"]
  | member false => [.word "IN", .mark '(']
  | member true => [.word "NOT", .word "IN", .mark '(']

end Link

namespace OperatorTable

variable (table : OperatorTable)

/-- The link that the tokens begin with, and what is behind it. -/
def link? : List Token → Option (Link × List Token)
  | [] => none
  | token :: rest =>
    if token = .word "IS" then
      match rest with
      | .word "NULL" :: rest => some (.nullTest false, rest)
      | .word "NOT" :: .word "NULL" :: rest => some (.nullTest true, rest)
      | _ => none
    else if token = .word "BETWEEN" then some (.between, rest)
    else if token = .word "IN" then
      match rest with
      | .mark '(' :: rest => some (.member false, rest)
      | _ => none
    else if token = .word "NOT" then
      match rest with
      | .word "IN" :: .mark '(' :: rest => some (.member true, rest)
      | _ => none
    else (table.operator? token).map fun operator => (.infixed operator, rest)

variable {table}

theorem operator?_core {operator : BinaryOperator}
    (plain : operator ∈ plainOperators) :
    table.operator? (operatorToken operator) = some (.core operator) := by
  have found : ∀ operator ∈ plainOperators,
      plainOperators.find? (operatorToken · = operatorToken operator) =
        some operator := by
    decide
  simp only [operator?, found operator plain]

private theorem find?_kind {kind : String} (known : kind ∈ table.kinds) :
    ∃ entry ∈ table.entries,
      table.entries.find? (·.1 = kind) = some entry ∧ entry.1 = kind := by
  obtain ⟨other, member, rfl⟩ := List.mem_map.mp known
  cases found : table.entries.find? (·.1 = other.1) with
  | none =>
      have absent := List.find?_eq_none.mp found other member
      simp at absent
  | some entry =>
      refine ⟨entry, List.mem_of_find?_eq_some found, rfl, ?_⟩
      simpa using List.find?_some found

theorem token_registered {kind : String} (known : kind ∈ table.kinds) :
    (kind, table.token (.registered kind)) ∈ table.entries := by
  obtain ⟨entry, member, found, rfl⟩ := find?_kind known
  simpa only [token, found, Option.map_some, Option.getD_some] using member

namespace IsDistinct

variable (distinct : table.IsDistinct)
include distinct

theorem operator?_token {operator : InfixOperator}
    (known : table.Knows operator) :
    table.operator? (table.token operator) = some operator := by
  cases operator with
  | core operator => exact operator?_core known
  | registered kind =>
      have member := token_registered known
      have other : plainOperators.find?
          (operatorToken · = table.token (.registered kind)) = none := by
        refine List.find?_eq_none.mpr fun operator plain same => ?_
        refine distinct.registered _ member ?_
        exact List.mem_map.mpr ⟨operator, plain, by simpa using same⟩
      simp only [operator?, other]
      cases found : table.entries.find?
          (·.2 = table.token (.registered kind)) with
      | none =>
          have absent := List.find?_eq_none.mp found _ member
          simp at absent
      | some entry =>
          have same : entry.2 = table.token (.registered kind) := by
            simpa using List.find?_some found
          have own := distinct.injective entry
            (List.mem_of_find?_eq_some found) _ member same
          simp [own]

theorem operator?_eq_none (token : Token)
    (reserved : token ∈ syntaxTokens ∨ token.isPlain = false) :
    table.operator? token = none := by
  have core : plainOperators.find? (operatorToken · = token) = none := by
    refine List.find?_eq_none.mpr fun operator plain same => ?_
    have own : operatorToken operator = token := by simpa using same
    have apart : ∀ operator ∈ plainOperators,
        operatorToken operator ∉ syntaxTokens ∧
          (operatorToken operator).isPlain := by
      decide
    obtain ⟨outside, isPlain⟩ := apart operator plain
    rw [own] at outside isPlain
    rcases reserved with inside | hidden
    · exact outside inside
    · rw [hidden] at isPlain
      cases isPlain
  have entries : table.entries.find? (·.2 = token) = none := by
    refine List.find?_eq_none.mpr fun entry member same => ?_
    have own : entry.2 = token := by simpa using same
    rcases reserved with inside | hidden
    · exact distinct.other entry member (own ▸ inside)
    · have isPlain := distinct.plain entry member
      rw [own, hidden] at isPlain
      cases isPlain
  simp [operator?, core, entries]

theorem token_not_mem {operator : InfixOperator}
    (known : table.Knows operator) :
    table.token operator ∉ syntaxTokens := by
  cases operator with
  | core operator =>
      have outside : ∀ operator ∈ plainOperators,
          operatorToken operator ∉ syntaxTokens := by
        decide
      exact outside operator known
  | registered kind => exact distinct.other _ (token_registered known)

theorem link?_tokens (link : Link)
    (known : ∀ operator, link = .infixed operator → table.Knows operator)
    (rest : List Token) :
    table.link? (link.tokens table ++ rest) = some (link, rest) := by
  cases link with
  | infixed operator =>
      have apart := distinct.token_not_mem (known operator rfl)
      have told := distinct.operator?_token (known operator rfl)
      simp only [syntaxTokens, List.mem_cons, List.not_mem_nil, or_false,
        not_or] at apart
      simp [Link.tokens, link?, apart, told]
  | nullTest negated => cases negated <;> simp [Link.tokens, link?]
  | between => simp [Link.tokens, link?]
  | member negated => cases negated <;> simp [Link.tokens, link?]

theorem link?_eq_none {token : Token} (rest : List Token)
    (ends : token ∈ [.word "WHEN", .word "THEN", .word "ELSE", .word "END",
      .mark ',', .mark ')']) :
    table.link? (token :: rest) = none := by
  have reserved : token ∈ syntaxTokens ∨ token.isPlain = false := by
    have all : ∀ token ∈ ([.word "WHEN", .word "THEN", .word "ELSE",
        .word "END", .mark ',', .mark ')'] : List Token),
        token ∈ syntaxTokens ∨ token.isPlain = false := by
      decide
    exact all token ends
  have free := distinct.operator?_eq_none token reserved
  have apart : token ≠ .word "IS" ∧ token ≠ .word "BETWEEN" ∧
      token ≠ .word "IN" ∧ token ≠ .word "NOT" := by
    have all : ∀ token ∈ ([.word "WHEN", .word "THEN", .word "ELSE",
        .word "END", .mark ',', .mark ')'] : List Token),
        token ≠ .word "IS" ∧ token ≠ .word "BETWEEN" ∧
          token ≠ .word "IN" ∧ token ≠ .word "NOT" := by
      decide
    exact all token ends
  simp [link?, apart, free]

end IsDistinct

end OperatorTable

end SqlExpr.Grammar
