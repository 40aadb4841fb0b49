import Mathlib.Data.List.Chain
import SqlExpr.Text.Pieces

/-!
# Pieces of a text

What is known of the pieces that a text is cut into is known of the text, as
long as it speaks of single characters or of neighbours.  Of a text that no
blank begins or ends nothing is trimmed.
-/

namespace SqlExpr.Text

/-- The characters that are taken away from the end of a text do not end what
is left. -/
theorem getLast?_dropWhile {taken : Char → Bool} {reversed : List Char}
    {c : Char} (last : (reversed.dropWhile taken).reverse.getLast? = some c) :
    taken c = false := by
  have visible := List.head?_dropWhile_not taken reversed
  rw [List.getLast?_reverse] at last
  rw [last] at visible
  exact visible

/-- Nothing is taken away from a text that no blank begins or ends. -/
theorem trim_eq_self {text : String}
    (first : ∀ c ∈ text.toList.head?, isBlank c = false)
    (last : ∀ c ∈ text.toList.getLast?, isBlank c = false) :
    trim text = text := by
  have keep (text : List Char)
      (visible : ∀ c ∈ text.head?, isBlank c = false) :
      text.dropWhile isBlank = text := by
    cases text with
    | nil => rfl
    | cons c rest =>
        rw [List.dropWhile_cons_of_neg]
        simp [visible c rfl]
  rw [← List.head?_reverse] at last
  unfold trim trimLeft trimRight
  rw [keep _ first, keep _ last, List.reverse_reverse, String.ofList_toList]

theorem piecesWhere_ne_nil (cut : Char → Bool) (text : List Char) :
    piecesWhere cut text ≠ [] := by
  induction text with
  | nil => simp [piecesWhere]
  | cons c rest induction =>
      unfold piecesWhere
      split
      · next empty => exact absurd empty induction
      · split <;> simp

/-- The pieces of a text go on behind a text without cuts. -/
theorem piecesWhere_append {cut : Char → Bool} {first rest piece : List Char}
    {pieces : List (List Char)} (whole : ∀ c ∈ first, cut c = false)
    (known : piecesWhere cut rest = piece :: pieces) :
    piecesWhere cut (first ++ rest) = (first ++ piece) :: pieces := by
  induction first with
  | nil => exact known
  | cons c first induction =>
      rw [List.forall_mem_cons] at whole
      rw [List.cons_append, piecesWhere, induction whole.2]
      simp [whole.1]

theorem piecesWhere_cut {cut : Char → Bool} {c : Char} (isCut : cut c)
    (rest : List Char) :
    piecesWhere cut (c :: rest) = [] :: piecesWhere cut rest := by
  rw [piecesWhere]
  cases pieces : piecesWhere cut rest with
  | nil => exact absurd pieces (piecesWhere_ne_nil cut rest)
  | cons piece pieces => simp [isCut]

theorem joinWith_append (separator piece last : String)
    (pieces : List String) :
    joinWith separator (piece :: (pieces ++ [last])) =
      joinWith separator (piece :: pieces) ++ separator ++ last := by
  induction pieces generalizing piece with
  | nil => rfl
  | cons next pieces induction =>
      simp only [List.cons_append, joinWith, induction, String.append_assoc]

theorem mem_joinWith {separator piece : String} {pieces : List String}
    {c : Char} (own : c ∈ piece.toList) (member : piece ∈ pieces) :
    c ∈ (joinWith separator pieces).toList := by
  induction pieces with
  | nil => cases member
  | cons first pieces induction =>
      cases pieces with
      | nil =>
          cases List.mem_singleton.mp member
          exact own
      | cons next pieces =>
          simp only [joinWith, String.toList_append, List.mem_append]
          rcases List.mem_cons.mp member with rfl | member
          · exact .inl (.inl own)
          · exact .inr (induction member)

theorem of_mem_joinWith {separator : String} {pieces : List String} {c : Char}
    (member : c ∈ (joinWith separator pieces).toList) :
    c ∈ separator.toList ∨ ∃ piece ∈ pieces, c ∈ piece.toList := by
  induction pieces with
  | nil => simp [joinWith] at member
  | cons first pieces induction =>
      cases pieces with
      | nil => exact .inr ⟨first, List.mem_cons_self, member⟩
      | cons next pieces =>
          simp only [joinWith, String.toList_append, List.mem_append]
            at member
          obtain (own | between) | later := member
          · exact .inr ⟨first, List.mem_cons_self, own⟩
          · exact .inl between
          · obtain inside | ⟨piece, known, inside⟩ := induction later
            · exact .inl inside
            · exact .inr ⟨piece, List.mem_cons_of_mem _ known, inside⟩

theorem head?_joinWith {separator piece : String} (longer : piece ≠ "")
    (others : List String) :
    (joinWith separator (piece :: others)).toList.head? =
      piece.toList.head? := by
  cases others with
  | nil => rfl
  | cons next others =>
      obtain ⟨c, rest, letters⟩ := List.exists_cons_of_ne_nil
        (mt String.toList_eq_nil_iff.mp longer)
      simp only [joinWith, String.toList_append, letters, List.cons_append,
        List.head?_cons]

/-- A text is what its pieces are joined to. -/
theorem joinWith_piecesWhere (separator : Char) (text : List Char) :
    joinWith (String.ofList [separator])
        ((piecesWhere (· == separator) text).map String.ofList) =
      String.ofList text := by
  induction text with
  | nil => rfl
  | cons c rest induction =>
      unfold piecesWhere
      split
      next none => exact absurd none (piecesWhere_ne_nil _ rest)
      next piece pieces cut =>
        rw [cut] at induction
        split
        next same =>
          have equal : c = separator := by simpa using same
          rw [List.map_cons, List.map_cons, joinWith, ← List.map_cons,
            induction, equal]
          · rw [← String.ofList_append, ← String.ofList_append]
            rfl
          · simp
        next other =>
          have longer : String.ofList (c :: piece) =
              String.ofList [c] ++ String.ofList piece := by
            rw [← String.ofList_append]
            rfl
          have whole : String.ofList (c :: rest) =
              String.ofList [c] ++ String.ofList rest := by
            rw [← String.ofList_append]
            rfl
          rw [whole, ← induction, List.map_cons, longer]
          cases pieces with
          | nil => rfl
          | cons next pieces =>
              simp only [List.map_cons, joinWith, String.append_assoc]

/-- Parts in which the separator is not are found again as the pieces of what
they are joined to. -/
theorem pieces_joinWith {separator : Char} {part : String}
    {parts : List String}
    (whole : ∀ own ∈ part :: parts, separator ∉ own.toList) :
    pieces separator (joinWith (String.ofList [separator]) (part :: parts)) =
      part :: parts := by
  have uncut (own : String) (member : own ∈ part :: parts) :
      ∀ c ∈ own.toList, (c == separator) = false := by
    intro c inside
    apply beq_eq_false_iff_ne.mpr
    intro same
    exact whole own member (same ▸ inside)
  induction parts generalizing part with
  | nil =>
      have alone := piecesWhere_append (uncut part List.mem_cons_self)
        (piecesWhere.eq_1 (· == separator))
      rw [List.append_nil] at alone
      rw [pieces, joinWith, alone, List.map_singleton, String.ofList_toList]
  | cons next parts induction =>
      have later := induction
        (fun own member => whole own (List.mem_cons_of_mem part member))
        (fun own member => uncut own (List.mem_cons_of_mem part member))
      have behind (rest : List Char) :
          piecesWhere (· == separator) (separator :: rest) =
            [] :: piecesWhere (· == separator) rest :=
        piecesWhere_cut (by simp) rest
      have first := piecesWhere_append (uncut part List.mem_cons_self)
        (behind (joinWith (String.ofList [separator]) (next :: parts)).toList)
      rw [List.append_nil] at first
      rw [pieces] at later ⊢
      rw [joinWith, String.toList_append, String.toList_append,
        String.toList_ofList, List.append_assoc, List.singleton_append, first,
        List.map_cons, later, String.ofList_toList]
      simp

/-- Pieces without the separator that are not empty can be told from what they
are joined to. -/
theorem joinWith_inj {separator : Char} {first second : List String}
    (firstWhole : ∀ piece ∈ first, piece ≠ "" ∧ separator ∉ piece.toList)
    (secondWhole : ∀ piece ∈ second, piece ≠ "" ∧ separator ∉ piece.toList)
    (same : joinWith (String.ofList [separator]) first =
      joinWith (String.ofList [separator]) second) : first = second := by
  have none : pieces separator "" = [""] := rfl
  cases first with
  | nil =>
      cases second with
      | nil => rfl
      | cons piece others =>
          have cut := pieces_joinWith fun own member =>
            (secondWhole own member).2
          rw [← same, joinWith, none] at cut
          cases cut
          exact absurd rfl (secondWhole "" List.mem_cons_self).1
  | cons piece others =>
      have cut := pieces_joinWith fun own member => (firstWhole own member).2
      cases second with
      | nil =>
          rw [same, joinWith, none] at cut
          cases cut
          exact absurd rfl (firstWhole "" List.mem_cons_self).1
      | cons next later =>
          rw [← cut, same, pieces_joinWith]
          intro own member
          exact (secondWhole own member).2

section Chains

variable {related : Char → Char → Prop} {cut : Char → Bool} {start : Char}

private theorem isChain_of_first
    (toCut : ∀ before c, cut c → related before c)
    (fromCut : ∀ c next, cut c → related start next → related c next)
    {text : List Char} {before : Char} {first : List Char}
    {others : List (List Char)}
    (pieces : piecesWhere cut text = first :: others)
    (firstChain : (before :: first).IsChain related)
    (otherChains : ∀ piece ∈ others, (start :: piece).IsChain related) :
    (before :: text).IsChain related := by
  induction text generalizing before first others with
  | nil => exact .singleton before
  | cons c rest induction =>
      unfold piecesWhere at pieces
      split at pieces
      · cases pieces
      · next piece more next =>
          split at pieces
          · next isCut =>
              cases pieces
              rw [List.forall_mem_cons] at otherChains
              have pieceChain : (c :: piece).IsChain related :=
                otherChains.1.tail.cons fun d member =>
                  fromCut c d isCut (otherChains.1.rel_head? member)
              exact .cons_cons (toCut before c isCut)
                (induction next pieceChain otherChains.2)
          · cases pieces
            have link : related before c := firstChain.rel_head? rfl
            exact .cons_cons link
              (induction next firstChain.tail otherChains)

/-- A relation between neighbours holds along a text if it holds along each of
its pieces, and across a cut from either side. -/
theorem isChain_of_pieces
    (toCut : ∀ before c, cut c → related before c)
    (fromCut : ∀ c next, cut c → related start next → related c next)
    {text : List Char}
    (chains : ∀ piece ∈ piecesWhere cut text,
      (start :: piece).IsChain related) :
    (start :: text).IsChain related := by
  cases pieces : piecesWhere cut text with
  | nil => exact absurd pieces (piecesWhere_ne_nil cut text)
  | cons first others =>
      rw [pieces, List.forall_mem_cons] at chains
      exact isChain_of_first toCut fromCut pieces chains.1 chains.2

end Chains

end SqlExpr.Text
