import SqlExpr.Node.TypeName
import SqlExpr.Proofs.Lexis.Scanner
import SqlExpr.Proofs.Text.Pieces

/-!
# The words of a name

A name of several words is cut at its blanks.  `Spaced` says the same the other
way round: it puts words and blanks together to a text.  The check cuts at all
the blanks there are, also at those that the scanner takes for letters.
-/

namespace SqlExpr.TypeName

open SqlExpr.Lexis SqlExpr.Text

/-- The text is made of the words, with blanks around and between them. -/
inductive Spaced (blank : Char → Bool) : List String → List Char → Prop where
  | nil : Spaced blank [] []
  | blank {c : Char} {names : List String} {text : List Char} :
      blank c → Spaced blank names text → Spaced blank names (c :: text)
  | word {word text : List Char} {names : List String} :
      word ≠ [] → (∀ c ∈ word, isBlank c = false) →
      (∀ c ∈ text.head?, blank c) → Spaced blank names text →
      Spaced blank (String.ofList word :: names) (word ++ text)

theorem words_blank {c : Char} (blank : isBlank c) (text : List Char) :
    words (c :: text) = words text := by
  rw [words, words, piecesWhere_cut blank]
  rfl

theorem words_append {word text : List Char} (nonempty : word ≠ [])
    (whole : ∀ c ∈ word, isBlank c = false)
    (stops : ∀ c ∈ text.head?, isBlank c) :
    words (word ++ text) = String.ofList word :: words text := by
  have visible : word.isEmpty = false := by simpa using nonempty
  cases text with
  | nil =>
      have alone := piecesWhere_append whole (piecesWhere.eq_1 isBlank)
      rw [List.append_nil] at alone ⊢
      simp [words, alone, piecesWhere, visible]
  | cons c rest =>
      have blank : isBlank c := stops c rfl
      have cut := piecesWhere_append whole (piecesWhere_cut blank rest)
      simp [words, cut, piecesWhere_cut blank, visible]

namespace Spaced

variable {blank : Char → Bool} {names : List String} {text : List Char}

theorem words_eq (spaced : Spaced blank names text)
    (blanks : ∀ c, blank c → isBlank c) : words text = names := by
  induction spaced with
  | nil => rfl
  | blank isCut _ induction => rw [words_blank (blanks _ isCut), induction]
  | word nonempty whole stops _ induction =>
      rw [words_append nonempty whole fun c first => blanks c (stops c first),
        induction]

/-- Blanks of one kind make a text of words if all the blanks in it are of that
kind. -/
theorem restrict {blanks : Char → Bool} (spaced : Spaced blanks names text)
    (kind : ∀ c ∈ text, blanks c → blank c) : Spaced blank names text := by
  induction spaced with
  | nil => exact .nil
  | blank isCut _ induction =>
      rw [List.forall_mem_cons] at kind
      exact .blank (kind.1 isCut) (induction kind.2)
  | @word word text _ nonempty whole stops _ induction =>
      rw [List.forall_mem_append] at kind
      refine .word nonempty whole (fun c first => ?_) (induction kind.2)
      exact kind.2 c (List.mem_of_mem_head? first) (stops c first)

/-- All the blanks of such a text are of the kind it is made with. -/
theorem blank_of_mem (spaced : Spaced blank names text) {c : Char}
    (member : c ∈ text) (isCut : isBlank c) : blank c := by
  induction spaced with
  | nil => cases member
  | blank known _ induction =>
      rcases List.mem_cons.mp member with rfl | later
      · exact known
      · exact induction later
  | word _ whole _ _ induction =>
      rcases List.mem_append.mp member with inside | later
      · rw [whole c inside] at isCut
        cases isCut
      · exact induction later

end Spaced

private theorem exists_word {c : Char} (visible : isBlank c = false)
    (rest : List Char) :
    ∃ word text, c :: rest = word ++ text ∧ word ≠ [] ∧
      (∀ d ∈ word, isBlank d = false) ∧ ∀ d ∈ text.head?, isBlank d := by
  induction rest generalizing c with
  | nil => exact ⟨[c], [], rfl, by simp, by simpa using visible, by simp⟩
  | cons d rest induction =>
      cases blank : isBlank d with
      | true =>
          refine ⟨[c], d :: rest, rfl, by simp, by simpa using visible, ?_⟩
          simpa using blank
      | false =>
          obtain ⟨word, text, cut, _, whole, stops⟩ := induction blank
          refine ⟨c :: word, text, by rw [cut]; rfl, by simp, ?_, stops⟩
          exact List.forall_mem_cons.mpr ⟨visible, whole⟩

/-- A text is made of its own words. -/
theorem spaced_words (text : List Char) :
    Spaced isBlank (words text) text := by
  cases text with
  | nil => exact .nil
  | cons c rest =>
      cases blank : isBlank c with
      | true =>
          rw [words_blank blank]
          exact .blank blank (spaced_words rest)
      | false =>
          obtain ⟨word, text, cut, nonempty, whole, stops⟩ :=
            exists_word blank rest
          have shorter : text.length < (c :: rest).length := by
            have letters := List.length_pos_iff.mpr nonempty
            rw [cut, List.length_append]
            omega
          rw [cut, words_append nonempty whole stops]
          exact .word nonempty whole stops (spaced_words text)
termination_by text.length
decreasing_by
  · exact shorter
  · exact Nat.lt_succ_self rest.length

theorem spaced_iff_words_eq {names : List String} {text : List Char} :
    Spaced isBlank names text ↔ words text = names := by
  constructor
  · intro spaced
    exact spaced.words_eq fun _ blank => blank
  · rintro rfl
    exact spaced_words text

theorem isBlank_of_isSpace {c : Char} (space : isSpace c) : isBlank c := by
  simp only [isSpace, Bool.or_eq_true, beq_iff_eq] at space
  obtain ((((rfl | rfl) | rfl) | rfl) | rfl) | rfl := space <;> rfl

/-- Words between blanks of the scanner are words between blanks, if the
scanner takes every blank of the text for one. -/
theorem spaced_isSpace_iff {names : List String} {text : List Char} :
    Spaced isSpace names text ↔
      Spaced isBlank names text ∧ ∀ c ∈ text, isBlank c → isSpace c := by
  constructor
  · intro spaced
    constructor
    · exact spaced.restrict fun c _ space => isBlank_of_isSpace space
    · exact fun c member blank => spaced.blank_of_mem member blank
  · rintro ⟨spaced, kind⟩
    exact spaced.restrict kind

end SqlExpr.TypeName
