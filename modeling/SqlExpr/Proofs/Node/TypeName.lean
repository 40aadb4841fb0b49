import SqlExpr.Node.TypeName
import SqlExpr.Proofs.Text.Pieces

/-!
# The characters of a type name

A type name is checked without its modifiers and brackets.  What is left are
letters, points and blanks; digits and dollars stand in it as well, but only
behind another character of a word.  This says nothing about the text that the
name was taken from, in which a modifier may come between the two.
-/

namespace SqlExpr.TypeName

open SqlExpr.Name SqlExpr.Text

/-- The characters that a digit or a dollar can follow in a name. -/
def isInner (c : Char) : Bool := beginsName c || isAsciiDigit c || c == '$'

/-- The characters that can stand anywhere in a name. -/
def isFree (c : Char) : Bool := beginsName c || c == '.' || isBlank c

/-- Whether a character can stand behind another one in a name. -/
def Follows (before c : Char) : Prop :=
  isFree c ∨ (isAsciiDigit c ∨ c = '$') ∧ isInner before

private theorem Follows.of_blank {c next : Char} (follows : Follows ' ' next) :
    Follows c next := by
  rcases follows with free | ⟨_, inner⟩
  · exact .inl free
  · cases inner

private theorem isChain_of_cut (cut : Char → Bool)
    (freeCut : ∀ c, cut c → isFree c) {text : List Char}
    (chains : ∀ piece ∈ piecesWhere cut text,
      (' ' :: piece).IsChain Follows) :
    (' ' :: text).IsChain Follows :=
  isChain_of_pieces (fun _ c isCut => .inl (freeCut c isCut))
    (fun _ _ _ follows => follows.of_blank) chains

private theorem isChain_of_isPlain {text : String} (plain : isPlain text) :
    (' ' :: text.toList).IsChain Follows := by
  unfold isPlain isWord at plain
  cases characters : text.toList with
  | nil => exact .singleton ' '
  | cons c rest =>
      simp only [characters, Bool.and_eq_true, List.all_eq_true] at plain
      obtain ⟨letter, further⟩ := plain
      have free : isFree c := by simp [isFree, letter]
      have inner : isInner c := by simp [isInner, letter]
      refine List.IsChain.cons_cons (.inl free) ?_
      clear letter free characters
      induction rest generalizing c with
      | nil => exact .singleton c
      | cons d rest induction =>
          rw [List.forall_mem_cons] at further
          have kinds : beginsName d ∨ isAsciiDigit d ∨ d = '$' := by
            simpa [or_assoc] using further.1
          have next : isInner d := by
            simpa [isInner, or_assoc] using kinds
          refine List.IsChain.cons_cons ?_ (induction d further.2 next)
          rcases kinds with letter | other
          · exact .inl (by simp [isFree, letter])
          · exact .inr ⟨other, inner⟩

private theorem isChain_of_qualified {word : String}
    (qualified : (qualifiedParts? word).isSome) :
    (' ' :: word.toList).IsChain Follows := by
  simp only [qualifiedParts?] at qualified
  split at qualified
  · next plain =>
      refine isChain_of_cut (· == '.') (fun c point => ?_)
        fun piece member => ?_
      · simp [isFree, point]
      · simp only [pieces, List.all_eq_true, List.mem_map] at plain
        have own := isChain_of_isPlain (plain _ ⟨piece, member, rfl⟩)
        simpa using own
  · cases qualified

private theorem isFree_of_multiWord {text : String} {c : Char}
    (known : multiWordNames.contains (asciiLower text))
    (member : c ∈ text.toList) : isFree c := by
  have spelled : multiWordNames.all fun name => name.toList.all isFree := rfl
  simp only [List.all_eq_true] at spelled
  have lower : isFree c.toLower := by
    refine spelled (asciiLower text) (List.contains_iff_mem.mp known) _ ?_
    simp only [asciiLower, String.toList_ofList]
    exact List.mem_map_of_mem member
  by_cases capital : c.isUpper
  · have letter : isAsciiLetter c := by
      simp only [isAsciiLetter, Bool.or_eq_true, Bool.and_eq_true,
        decide_eq_true_eq]
      exact .inr (of_decide_eq_true capital)
    simp [isFree, beginsName, letter]
  · have same : c.toLower = c := by
      unfold Char.toLower
      exact dif_neg (of_decide_eq_false (Bool.eq_false_iff.mpr capital))
    rwa [same] at lower

private theorem isChain_of_free {text : List Char} (before : Char)
    (free : ∀ c ∈ text, isFree c) : (before :: text).IsChain Follows := by
  induction text generalizing before with
  | nil => exact .singleton before
  | cons c rest induction =>
      rw [List.forall_mem_cons] at free
      exact .cons_cons (.inl free.1) (induction c free.2)

/-- In a valid name, digits and dollars stand behind a character of a word. -/
theorem isChain_of_isName {name : List Char} (valid : isName name) :
    (' ' :: name).IsChain Follows := by
  have wordChain : ∀ word ∈ words name,
      (' ' :: word.toList).IsChain Follows := by
    intro word member
    unfold isName at valid
    split at valid
    · cases valid
    · next single equal =>
        rw [equal] at member
        cases List.mem_singleton.mp member
        exact isChain_of_qualified valid
    · exact isChain_of_free ' ' fun c own =>
        isFree_of_multiWord valid (mem_joinWith own member)
  refine isChain_of_cut isBlank (fun c blank => ?_) fun piece member => ?_
  · simp [isFree, blank]
  · cases piece with
    | nil => exact .singleton ' '
    | cons c rest =>
        have word : String.ofList (c :: rest) ∈ words name := by
          simp only [words, List.mem_map, List.mem_filter]
          exact ⟨c :: rest, ⟨member, rfl⟩, rfl⟩
        simpa using wordChain _ word

/-- Other characters than those of words, points and blanks are not in a valid
name. -/
theorem not_mem_of_isName {name : List Char} (valid : isName name) {c : Char}
    (foreign : (isFree c || isInner c) = false) : c ∉ name := by
  intro member
  obtain ⟨front, back, rfl⟩ := List.append_of_mem member
  have follows : Follows ((' ' :: front).getLast (by simp)) c :=
    List.IsChain.rel_getLast_head_of_append (isChain_of_isName valid)
      (List.cons_ne_nil ' ' front) (List.cons_ne_nil c back)
  rw [Bool.or_eq_false_iff] at foreign
  rcases follows with free | ⟨digit | rfl, _⟩
  · rw [free] at foreign
    cases foreign.1
  · simp [isInner, digit] at foreign
  · cases foreign.2

end SqlExpr.TypeName
