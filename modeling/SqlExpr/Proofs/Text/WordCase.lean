import SqlExpr.Proofs.Text.LetterCase
import SqlExpr.Proofs.Text.Pieces
import SqlExpr.Text.WordCase

/-!
# Words of a name

The words of a name are made of its letters and digits in order, and none of
them is empty.  They can be told from the text in which they are joined in upper
case, up to the case of their letters.
-/

namespace SqlExpr.Text

variable {name other : String} {word : List Char} {c : Char}

/-! ## Words -/

theorem flatten_piecesWhere (cut : Char → Bool) (text : List Char) :
    (piecesWhere cut text).flatten = text.filter (!cut ·) := by
  induction text with
  | nil => rfl
  | cons c rest induction =>
      by_cases isCut : cut c
      · rw [piecesWhere_cut isCut, List.flatten_cons, List.nil_append,
          induction, List.filter_cons_of_neg (by simp [isCut])]
      · have whole : ∀ d ∈ [c], cut d = false := by simpa using isCut
        cases known : piecesWhere cut rest with
        | nil => exact absurd known (piecesWhere_ne_nil cut rest)
        | cons piece pieces =>
            have joined := piecesWhere_append whole known
            rw [List.singleton_append] at joined
            rw [joined, List.filter_cons_of_pos (by simp [isCut]), ← induction,
              known]
            rfl

/-- Cutting a run into words loses nothing. -/
theorem flatten_cutWords (mode : WordMode) (word text : List Char) :
    (cutWords mode word text).flatten = word.reverse ++ text := by
  fun_induction cutWords mode word text with
  | case1 mode word empty => simp_all
  | case2 mode word longer => simp
  | case3 mode word c => simp
  | case4 mode word c next rest ends induction => simp [induction]
  | case5 mode word c next rest goes ends induction => simp [induction]
  | case6 mode word c next rest goes more induction => simp [induction]

/-- A word that has a case has a letter, so that no empty word is cut off. -/
theorem nil_not_mem_cutWords {mode : WordMode} (text : List Char)
    (begun : mode = .start ∨ word ≠ []) : [] ∉ cutWords mode word text := by
  fun_induction cutWords mode word text with
  | case1 mode word empty => exact List.not_mem_nil
  | case2 mode word longer => simpa using longer
  | case3 mode word c => simp
  | case4 mode word c next rest ends induction =>
      have later := induction (.inl rfl)
      simpa using later
  | case5 mode word c next rest goes ends induction =>
      have later := induction (.inl rfl)
      have own : word ≠ [] := by
        apply begun.resolve_left
        rw [ends.1]
        decide
      simpa [own] using later
  | case6 mode word c next rest goes more induction =>
      exact induction (.inr (List.cons_ne_nil c word))

/-- The words of a name are made of its letters and digits. -/
theorem flatten_nameWords (name : String) :
    (nameWords name).flatten = name.toList.filter isAlphanumeric := by
  have pieces := flatten_piecesWhere (!isAlphanumeric ·) name.toList
  unfold nameWords
  rw [List.flatMap_def, List.flatten_flatten, List.map_map]
  have cut : List.flatten ∘ cutWords .start [] = id := by
    funext run
    exact flatten_cutWords .start [] run
  rw [cut, List.map_id, pieces]
  simp only [Bool.not_not]

theorem nil_not_mem_nameWords (name : String) : [] ∉ nameWords name := by
  unfold nameWords
  rw [List.mem_flatMap]
  rintro ⟨run, _, member⟩
  exact nil_not_mem_cutWords run (.inl rfl) member

theorem ne_nil_of_mem_nameWords (known : word ∈ nameWords name) :
    word ≠ [] := by
  rintro rfl
  exact nil_not_mem_nameWords name known

theorem mem_of_mem_nameWords (known : word ∈ nameWords name)
    (member : c ∈ word) : c ∈ name.toList ∧ isAlphanumeric c := by
  have inside := List.mem_flatten_of_mem known member
  rw [flatten_nameWords] at inside
  exact List.mem_filter.mp inside

/-- Words that are written without underscores, and none of them as nothing, can
be told from what they are joined to. -/
theorem joinWith_nameWords_eq_iff {write : List Char → List Char}
    (whole : ∀ word ∈ nameWords name, write word ≠ [] ∧ '_' ∉ write word)
    (otherWhole : ∀ word ∈ nameWords other,
      write word ≠ [] ∧ '_' ∉ write word) :
    joinWith "_" ((nameWords name).map (String.ofList ∘ write)) =
        joinWith "_" ((nameWords other).map (String.ofList ∘ write)) ↔
      (nameWords name).map write = (nameWords other).map write := by
  have pieces {words : List (List Char)}
      (whole : ∀ word ∈ words, write word ≠ [] ∧ '_' ∉ write word) :
      ∀ piece ∈ words.map (String.ofList ∘ write),
        piece ≠ "" ∧ '_' ∉ piece.toList := by
    intro piece member
    obtain ⟨word, known, rfl⟩ := List.mem_map.mp member
    obtain ⟨longer, plain⟩ := whole word known
    constructor
    · intro empty
      apply longer
      simpa using congrArg String.toList empty
    · simpa using plain
  constructor
  · intro same
    have words := joinWith_inj (pieces whole) (pieces otherWhole) same
    rw [← List.map_map, ← List.map_map] at words
    exact List.map_injective_iff.mpr (fun _ _ => String.ofList_inj.mp) words
  · intro same
    rw [← List.map_map, same, List.map_map]

/-! ## Upper case -/

theorem uppercaseWord_ne_nil (longer : word ≠ []) :
    uppercaseWord word ≠ [] := by
  obtain ⟨c, rest, rfl⟩ := List.exists_cons_of_ne_nil longer
  intro none
  exact uppercase_ne_nil c (List.append_eq_nil_iff.mp none).1

theorem underscore_not_mem_uppercaseWord
    (letters : ∀ c ∈ word, isAlphanumeric c) : '_' ∉ uppercaseWord word := by
  intro member
  obtain ⟨c, own, inside⟩ := List.mem_flatMap.mp member
  apply underscore_not_mem_uppercase ?_ inside
  rintro rfl
  exact absurd (letters '_' own) (by decide +kernel)

/-- Names have the same form in upper case exactly if they have the same words,
up to the case of letters. -/
theorem shoutyCase_eq_iff : shoutyCase name = shoutyCase other ↔
    (nameWords name).map uppercaseWord =
      (nameWords other).map uppercaseWord := by
  have whole (name : String) : ∀ word ∈ nameWords name,
      uppercaseWord word ≠ [] ∧ '_' ∉ uppercaseWord word := by
    intro word known
    constructor
    · exact uppercaseWord_ne_nil (ne_nil_of_mem_nameWords known)
    · exact underscore_not_mem_uppercaseWord fun c own =>
        (mem_of_mem_nameWords known own).2
  exact joinWith_nameWords_eq_iff (whole name) (whole other)

/-! ## Lower case -/

/-- A word in lower case has the letters of the word in lower case, except for
a sigma at its end. -/
theorem lowercaseWord_cases (word : List Char) :
    lowercaseWord word = word.flatMap lowercase ∨
      ∃ before, word = before ++ ['Σ'] ∧
        lowercaseWord word = before.flatMap lowercase ++ ['ς'] := by
  fun_induction lowercaseWord word with
  | case1 => exact .inl rfl
  | case2 => exact .inr ⟨[], rfl, rfl⟩
  | case3 c rest other induction =>
      obtain plain | ⟨before, rfl, sigma⟩ := induction
      · left
        rw [plain, List.flatMap_cons]
      · right
        refine ⟨c :: before, rfl, ?_⟩
        rw [sigma, List.flatMap_cons, List.append_assoc]

/-- The letters and digits that have an ASCII character as their lower case. -/
def IsPlainLetter (c : Char) : Prop := c.isAlphanum ∨ c = kelvinSign

instance : DecidablePred IsPlainLetter :=
  fun _ => inferInstanceAs (Decidable (_ ∨ _))

theorem isPlainLetter_of_ascii (ascii : c.toNat < 128)
    (known : isAlphanumeric c) : IsPlainLetter c := by
  rw [isAlphanumeric_ascii ascii] at known
  exact .inl known

/-- A name in which all letters and digits are plain. -/
def IsPlainName (name : String) : Prop :=
  ∀ c ∈ name.toList, isAlphanumeric c → IsPlainLetter c

instance : DecidablePred IsPlainName :=
  fun name => List.decidableBAll _ name.toList

theorem isPlainName_of_ascii (ascii : ∀ c ∈ name.toList, c.toNat < 128) :
    IsPlainName name :=
  fun c member => isPlainLetter_of_ascii (ascii c member)

theorem IsPlainName.of_mem_nameWords (plain : IsPlainName name)
    (known : word ∈ nameWords name) : ∀ c ∈ word, IsPlainLetter c := by
  intro c own
  obtain ⟨inside, letter⟩ := mem_of_mem_nameWords known own
  exact plain c inside letter

theorem IsPlainLetter.lowercase (plain : IsPlainLetter c) :
    ∃ d, lowercase c = [d] ∧ d.isAlphanum ∧ d.isDigit = c.isDigit := by
  obtain plain | rfl := plain
  · exact lowercase_of_isAlphanum plain
  · exact ⟨'k', lowercase_kelvinSign, by decide⟩

theorem exists_foreign_of_not_isPlainLetter (known : isAlphanumeric c)
    (foreign : ¬ IsPlainLetter c) : ∃ d ∈ lowercase c, 128 ≤ d.toNat := by
  apply exists_foreign_lowercase
  · by_contra ascii
    exact foreign (isPlainLetter_of_ascii (Nat.not_le.mp ascii) known)
  · intro kelvin
    exact foreign (.inr kelvin)

theorem lowercaseWord_plain (plain : ∀ c ∈ word, IsPlainLetter c) :
    lowercaseWord word = word.flatMap lowercase := by
  apply (lowercaseWord_cases word).resolve_right
  rintro ⟨before, rfl, _⟩
  have sigma := plain 'Σ' (List.mem_append_right before List.mem_cons_self)
  revert sigma
  decide

theorem isAlphanum_of_mem_lowercaseWord (plain : ∀ c ∈ word, IsPlainLetter c)
    (member : c ∈ lowercaseWord word) : c.isAlphanum := by
  rw [lowercaseWord_plain plain] at member
  obtain ⟨own, known, inside⟩ := List.mem_flatMap.mp member
  obtain ⟨d, mapped, letter, _⟩ := (plain own known).lowercase
  rw [mapped, List.mem_singleton] at inside
  exact inside ▸ letter

/-- The first character of a word is a digit if it is one in lower case. -/
theorem exists_head_lowercaseWord {rest : List Char}
    (plain : ∀ d ∈ c :: rest, IsPlainLetter d) :
    ∃ d later, lowercaseWord (c :: rest) = d :: later ∧
      d.isDigit = c.isDigit := by
  obtain ⟨d, mapped, _, digit⟩ := (plain c List.mem_cons_self).lowercase
  rw [lowercaseWord_plain plain, List.flatMap_cons, mapped]
  exact ⟨d, _, rfl, digit⟩

theorem exists_foreign_lowercaseWord (letters : ∀ c ∈ word, isAlphanumeric c)
    (member : c ∈ word) (foreign : ¬ IsPlainLetter c) :
    ∃ d ∈ lowercaseWord word, 128 ≤ d.toNat := by
  obtain ⟨d, inside, beyond⟩ :=
    exists_foreign_of_not_isPlainLetter (letters c member) foreign
  obtain own | ⟨before, rfl, own⟩ := lowercaseWord_cases word
  · exact ⟨d, own ▸ List.mem_flatMap.mpr ⟨c, member, inside⟩, beyond⟩
  · rw [own]
    obtain earlier | last := List.mem_append.mp member
    · refine ⟨d, ?_, beyond⟩
      apply List.mem_append_left
      exact List.mem_flatMap.mpr ⟨c, earlier, inside⟩
    · refine ⟨'ς', List.mem_append_right _ List.mem_cons_self, ?_⟩
      decide

/-- Names of plain letters have the same form in lower case exactly if they have
the same words, up to the case of letters. -/
theorem snakeCase_eq_iff (plain : IsPlainName name)
    (otherPlain : IsPlainName other) : snakeCase name = snakeCase other ↔
      (nameWords name).map lowercaseWord =
        (nameWords other).map lowercaseWord := by
  have whole {name : String} (plain : IsPlainName name) :
      ∀ word ∈ nameWords name,
        lowercaseWord word ≠ [] ∧ '_' ∉ lowercaseWord word := by
    intro word known
    constructor
    · obtain ⟨c, rest, rfl⟩ :=
        List.exists_cons_of_ne_nil (ne_nil_of_mem_nameWords known)
      obtain ⟨d, later, written, _⟩ :=
        exists_head_lowercaseWord (plain.of_mem_nameWords known)
      rw [written]
      exact List.cons_ne_nil d later
    · intro member
      have letter := isAlphanum_of_mem_lowercaseWord
        (plain.of_mem_nameWords known) member
      revert letter
      decide
  exact joinWith_nameWords_eq_iff (whole plain) (whole otherPlain)

theorem of_mem_snakeCase (plain : IsPlainName name)
    (member : c ∈ (snakeCase name).toList) : c.isAlphanum ∨ c = '_' := by
  obtain between | ⟨_, listed, inside⟩ := of_mem_joinWith member
  · exact .inr (by simpa using between)
  · obtain ⟨word, known, rfl⟩ := List.mem_map.mp listed
    rw [Function.comp_apply, String.toList_ofList] at inside
    exact .inl
      (isAlphanum_of_mem_lowercaseWord (plain.of_mem_nameWords known) inside)

/-- A name begins with a digit in lower case exactly if a digit is the first of
its letters and digits. -/
theorem head?_snakeCase (plain : IsPlainName name) :
    (snakeCase name).toList.head?.map Char.isDigit =
      (name.toList.find? isAlphanumeric).map Char.isDigit := by
  rw [← List.head?_filter, ← flatten_nameWords]
  unfold snakeCase
  cases words : nameWords name with
  | nil => rfl
  | cons word others =>
      have known : word ∈ nameWords name := words ▸ List.mem_cons_self
      obtain ⟨c, rest, rfl⟩ :=
        List.exists_cons_of_ne_nil (ne_nil_of_mem_nameWords known)
      obtain ⟨d, later, written, digit⟩ :=
        exists_head_lowercaseWord (plain.of_mem_nameWords known)
      have longer : String.ofList (lowercaseWord (c :: rest)) ≠ "" := by
        rw [written]
        simp
      rw [List.map_cons, Function.comp_apply, head?_joinWith longer,
        String.toList_ofList, written]
      simp [digit]

theorem exists_foreign_snakeCase (member : c ∈ name.toList)
    (known : isAlphanumeric c) (foreign : ¬ IsPlainLetter c) :
    ∃ d ∈ (snakeCase name).toList, 128 ≤ d.toNat := by
  have inside : c ∈ (nameWords name).flatten := by
    rw [flatten_nameWords]
    exact List.mem_filter.mpr ⟨member, known⟩
  obtain ⟨word, listed, own⟩ := List.mem_flatten.mp inside
  obtain ⟨d, written, beyond⟩ := exists_foreign_lowercaseWord
    (fun c own => (mem_of_mem_nameWords listed own).2) own foreign
  refine ⟨d, ?_, beyond⟩
  apply mem_joinWith ?_ (List.mem_map_of_mem listed)
  rwa [Function.comp_apply, String.toList_ofList]

/-! ## Both cases -/

/-- If a case mapping forgets the case within ASCII, it may be applied to the
words of a name in either case. -/
theorem map_flatMap_nameWords {first second : Char → List Char}
    (forgets : ∀ c : Char, c.toNat < 128 →
      (first c).flatMap second = second c)
    (ascii : ∀ c ∈ name.toList, c.toNat < 128) :
    ((nameWords name).map (·.flatMap first)).map (·.flatMap second) =
      (nameWords name).map (·.flatMap second) := by
  rw [List.map_map]
  apply List.map_congr_left
  intro word known
  rw [Function.comp_apply, List.flatMap_assoc]
  apply List.flatMap_congr
  intro c own
  exact forgets c (ascii c (mem_of_mem_nameWords known own).1)

/-- Within ASCII, names have the same form in upper case exactly if they have
the same form in lower case. -/
theorem shoutyCase_eq_iff_snakeCase_eq
    (ascii : ∀ c ∈ name.toList, c.toNat < 128)
    (otherAscii : ∀ c ∈ other.toList, c.toNat < 128) :
    shoutyCase name = shoutyCase other ↔ snakeCase name = snakeCase other := by
  have plain := isPlainName_of_ascii ascii
  have otherPlain := isPlainName_of_ascii otherAscii
  have lower {name : String} (plain : IsPlainName name) :
      (nameWords name).map lowercaseWord =
        (nameWords name).map (·.flatMap lowercase) :=
    List.map_congr_left fun word known =>
      lowercaseWord_plain (plain.of_mem_nameWords known)
  rw [shoutyCase_eq_iff, snakeCase_eq_iff plain otherPlain, lower plain,
    lower otherPlain]
  unfold uppercaseWord
  constructor
  · intro same
    rw [← map_flatMap_nameWords @lowercase_uppercase ascii, same,
      map_flatMap_nameWords @lowercase_uppercase otherAscii]
  · intro same
    rw [← map_flatMap_nameWords @uppercase_lowercase ascii, same,
      map_flatMap_nameWords @uppercase_lowercase otherAscii]

end SqlExpr.Text
