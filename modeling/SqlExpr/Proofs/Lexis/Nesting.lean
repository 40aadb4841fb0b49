import SqlExpr.Proofs.Lexis.Reading

/-!
# Nesting of brackets

The brackets of a token list are matched on a stack of those that are awaited.
`Nests before after tokens` says what a piece of text does to that stack
whatever lies below, and that the piece has none of the tokens that reach
beyond it: semicolons, comments and dollars.
-/

namespace SqlExpr.Lexis

namespace Token

/-- The bracket that a token waits for. -/
def awaits? : Token → Option Char
  | call | mark '(' => some ')'
  | mark '[' => some ']'
  | _ => none

def isCloser : Token → Bool
  | mark ')' | mark ']' => true
  | _ => false

/-- Tokens after which what follows need not mean what it seems to mean. -/
def isHazard : Token → Bool
  | mark ';' | comment | dollar _ | dollarText _ _ => true
  | _ => false

/-- Neither a bracket nor a hazard. -/
def isPlain (token : Token) : Bool :=
  token.awaits?.isNone && !token.isCloser && !token.isHazard

end Token

/-- The brackets that are awaited after a token; `none` if it closes another
bracket than the one awaited. -/
def nestStep (awaited : List Char) (token : Token) : Option (List Char) :=
  match token.awaits? with
  | some closer => some (closer :: awaited)
  | none =>
    if token.isCloser then
      match awaited with
      | closer :: outer =>
        if token = .mark closer then some outer else none
      | [] => none
    else some awaited

/-- The brackets that are awaited after some tokens. -/
def nest (awaited : List Char) : List Token → Option (List Char)
  | [] => some awaited
  | token :: tokens =>
    (nestStep awaited token).bind fun awaited => nest awaited tokens

/-- All brackets are closed, each one by its own kind and in its turn. -/
def Balanced (tokens : List Token) : Prop := nest [] tokens = some []

instance (tokens : List Token) : Decidable (Balanced tokens) :=
  inferInstanceAs (Decidable (nest [] tokens = some []))

/-- Every quote in a text is closed, its brackets are balanced, and there is no
semicolon, comment or dollar quote outside of its quotes. -/
def IsClosed (text : String) : Prop :=
  ∃ tokens, scan text = some tokens ∧ Balanced tokens ∧
    ∀ token ∈ tokens, !token.isHazard

/-- Tokens without hazards that take the brackets awaited from `before` to
`after`, whatever is awaited further out. -/
def Nests (before after : List Char) (tokens : List Token) : Prop :=
  (∀ token ∈ tokens, !token.isHazard) ∧
    ∀ outer, nest (before ++ outer) tokens = some (after ++ outer)

theorem nest_append (awaited : List Char) (first second : List Token) :
    nest awaited (first ++ second) =
      (nest awaited first).bind fun inner => nest inner second := by
  induction first generalizing awaited with
  | nil => rfl
  | cons token tokens induction =>
      simp only [List.cons_append, nest, Option.bind_assoc, induction]

namespace Nests

variable {before inner after : List Char} {first second tokens : List Token}

theorem nil : Nests [] [] [] := ⟨by simp, fun _ => rfl⟩

theorem append (left : Nests before inner first)
    (right : Nests inner after second) :
    Nests before after (first ++ second) := by
  refine ⟨?_, fun outer => ?_⟩
  · intro token member
    rcases List.mem_append.mp member with member | member
    · exact left.1 token member
    · exact right.1 token member
  · rw [nest_append, left.2 outer]
    exact right.2 outer

/-- What is awaited further out stays awaited. -/
theorem frame (nests : Nests before after tokens) (further : List Char) :
    Nests (before ++ further) (after ++ further) tokens := by
  refine ⟨nests.1, fun outer => ?_⟩
  simpa using nests.2 (further ++ outer)

/-- A balanced piece between a bracket and its closer. -/
theorem enclosed {closer : Char} {opening closing : List Token}
    (opens : Nests [] [closer] opening) (nests : Nests [] [] tokens)
    (closes : Nests [closer] [] closing) :
    Nests [] [] (opening ++ (tokens ++ closing)) :=
  opens.append ((nests.frame [closer]).append closes)

theorem ofPlain (plain : ∀ token ∈ tokens, token.isPlain) :
    Nests [] [] tokens := by
  induction tokens with
  | nil => exact nil
  | cons token tokens induction =>
      have head := plain token List.mem_cons_self
      simp only [Token.isPlain, Bool.and_eq_true, Option.isNone_iff_eq_none,
        Bool.not_eq_true'] at head
      have single : Nests [] [] [token] := by
        refine ⟨by simp [head.2], fun outer => ?_⟩
        simp [nest, nestStep, head]
      exact single.append
        (induction fun other member =>
          plain other (List.mem_cons_of_mem token member))

theorem balanced (nests : Nests [] [] tokens) : Balanced tokens :=
  nests.2 []

theorem isClosed {text : String} (nests : Nests [] [] tokens)
    (read : Reads text.toList tokens) : IsClosed text :=
  ⟨tokens, read.scanChars_eq, nests.balanced, nests.1⟩

end Nests

end SqlExpr.Lexis
