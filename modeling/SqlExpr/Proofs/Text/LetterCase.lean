import SqlExpr.Text.CharacterSets
import SqlExpr.Text.LetterCase

/-!
# Letters in the other case

Within ASCII the case mappings are the plain ones.  Outside of it, the Kelvin
sign is the only character whose lower case lies within ASCII.  No character but
the underscore itself becomes one in upper case.
-/

namespace SqlExpr.Text

variable {c d : Char} {expansions : List (Nat × List Nat)}
  {shifts : List CaseShift}

/-! ## ASCII -/

/-- A property of all ASCII characters can be checked one by one. -/
theorem ascii_forall {property : Char → Prop}
    (checked : ∀ code < 128, property (Char.ofNat code))
    (ascii : c.toNat < 128) : property c := by
  have own := checked c.toNat ascii
  rwa [Char.ofNat_toNat] at own

theorem isAlpha_iff :
    c.isAlpha ↔ ('A' ≤ c ∧ c ≤ 'Z') ∨ ('a' ≤ c ∧ c ≤ 'z') := by
  have upper : c.isUpper ↔ 'A' ≤ c ∧ c ≤ 'Z' := decide_eq_true_iff
  have lower : c.isLower ↔ 'a' ≤ c ∧ c ≤ 'z' :=
    Bool.and_eq_true_iff.trans
      (and_congr decide_eq_true_iff decide_eq_true_iff)
  rw [← upper, ← lower]
  exact Bool.or_eq_true_iff

theorem isDigit_iff : c.isDigit ↔ '0' ≤ c ∧ c ≤ '9' :=
  Bool.and_eq_true_iff.trans (and_congr decide_eq_true_iff decide_eq_true_iff)

theorem isAlphanum_iff : c.isAlphanum ↔ c.isAlpha ∨ c.isDigit :=
  Bool.or_eq_true_iff

theorem lt_of_isAlphanum (plain : c.isAlphanum) : c.toNat < 128 := by
  have code : c.toNat = c.val.toNat := rfl
  have upper : 'Z'.val.toNat = 90 := rfl
  have lower : 'z'.val.toNat = 122 := rfl
  have digit : '9'.val.toNat = 57 := rfl
  simp only [isAlphanum_iff, isAlpha_iff, isDigit_iff, Char.le_def,
    UInt32.le_iff_toNat_le] at plain
  omega

theorem inRanges_append (first rest : List (Nat × Nat)) (c : Char) :
    inRanges (first ++ rest) c = (inRanges first c || inRanges rest c) :=
  List.any_append

theorem inRanges_of_lt {ranges : List (Nat × Nat)}
    (beyond : ∀ range ∈ ranges, 128 ≤ range.1) (ascii : c.toNat < 128) :
    inRanges ranges c = false := by
  apply List.any_eq_false.mpr
  intro range member
  have above := beyond range member
  simp only [Bool.and_eq_true, decide_eq_true_eq]
  omega

theorem isAlphanumeric_ascii (ascii : c.toNat < 128) :
    isAlphanumeric c = c.isAlphanum := by
  have split : alphanumericRanges =
      alphanumericRanges.take 3 ++ alphanumericRanges.drop 3 := rfl
  have beyond : ∀ range ∈ alphanumericRanges.drop 3, 128 ≤ range.1 := by
    decide +kernel
  have few : inRanges (alphanumericRanges.take 3) c = c.isAlphanum := by
    apply ascii_forall ?_ ascii
    decide +kernel
  rw [isAlphanumeric, split, inRanges_append, inRanges_of_lt beyond ascii, few,
    Bool.or_false]

/-- In a table with one run of ASCII characters, ASCII characters are looked up
in that run only. -/
theorem mapCase_ascii {shift : CaseShift}
    (expansionsBeyond : ∀ expansion ∈ expansions, 128 ≤ expansion.1)
    (shiftsBeyond : ∀ shift ∈ shifts, 128 ≤ shift.run.first)
    (ascii : c.toNat < 128) :
    mapCase expansions (shift :: shifts) c =
      if shift.run.contains c then
        [Char.ofNat (c.toNat + shift.distance).toNat]
      else [c] := by
  have single : expansions.lookup c.toNat = none := by
    apply List.lookup_eq_none_iff.mpr
    intro expansion member
    have above := expansionsBeyond expansion member
    simp only [bne_iff_ne, ne_eq]
    omega
  have others : shifts.find? (·.run.contains c) = none := by
    apply List.find?_eq_none.mpr
    intro shift member
    have above := shiftsBeyond shift member
    simp only [CodeRun.contains, Bool.and_eq_true, decide_eq_true_eq]
    omega
  rw [mapCase, single, List.find?_cons, others]
  cases shift.run.contains c <;> rfl

theorem lowercase_ascii (ascii : c.toNat < 128) :
    lowercase c = [c.toLower] := by
  have split : lowerShifts = ⟨⟨0x41, 0x5A, 1⟩, 0x20⟩ :: lowerShifts.tail := rfl
  rw [lowercase, split, mapCase_ascii (by decide) (by decide +kernel) ascii]
  apply ascii_forall ?_ ascii
  decide +kernel

theorem uppercase_ascii (ascii : c.toNat < 128) :
    uppercase c = [c.toUpper] := by
  have split : upperShifts = ⟨⟨0x61, 0x7A, 1⟩, -0x20⟩ :: upperShifts.tail := rfl
  rw [uppercase, split,
    mapCase_ascii (by decide +kernel) (by decide +kernel) ascii]
  apply ascii_forall ?_ ascii
  decide +kernel

/-- The lower case of a letter is a letter, and that of a digit a digit. -/
theorem lowercase_of_isAlphanum (plain : c.isAlphanum) :
    ∃ d, lowercase c = [d] ∧ d.isAlphanum ∧ d.isDigit = c.isDigit := by
  have ascii := lt_of_isAlphanum plain
  refine ⟨c.toLower, lowercase_ascii ascii, ?_⟩
  revert plain
  apply ascii_forall ?_ ascii
  decide +kernel

/-- Within ASCII, the upper case of a letter tells its lower case. -/
theorem lowercase_uppercase (ascii : c.toNat < 128) :
    (uppercase c).flatMap lowercase = lowercase c := by
  have upper : c.toUpper.toNat < 128 := by
    apply ascii_forall ?_ ascii
    decide +kernel
  rw [uppercase_ascii ascii, List.flatMap_singleton, lowercase_ascii upper,
    lowercase_ascii ascii]
  apply ascii_forall ?_ ascii
  decide +kernel

/-- Within ASCII, the lower case of a letter tells its upper case. -/
theorem uppercase_lowercase (ascii : c.toNat < 128) :
    (lowercase c).flatMap uppercase = uppercase c := by
  have lower : c.toLower.toNat < 128 := by
    apply ascii_forall ?_ ascii
    decide +kernel
  rw [lowercase_ascii ascii, List.flatMap_singleton, uppercase_ascii lower,
    uppercase_ascii ascii]
  apply ascii_forall ?_ ascii
  decide +kernel

/-! ## Beyond ASCII -/

/-- What the tables of a case mapping make of a character. -/
theorem mapCase_cases (expansions : List (Nat × List Nat))
    (shifts : List CaseShift) (c : Char) :
    (∃ codes, (c.toNat, codes) ∈ expansions ∧
      mapCase expansions shifts c = codes.map Char.ofNat) ∨
    (∃ shift ∈ shifts, shift.run.contains c ∧
      mapCase expansions shifts c =
        [Char.ofNat (c.toNat + shift.distance).toNat]) ∨
    mapCase expansions shifts c = [c] := by
  unfold mapCase
  split
  next codes found =>
    obtain ⟨before, after, split, _⟩ := List.lookup_eq_some_iff.mp found
    refine .inl ⟨codes, ?_, rfl⟩
    rw [split]
    exact List.mem_append_right before List.mem_cons_self
  next =>
    split
    next shift found =>
      have member := List.mem_of_find?_eq_some found
      have inside := List.find?_some found
      exact .inr (.inl ⟨shift, member, inside, rfl⟩)
    next => exact .inr (.inr rfl)

/-- No letter is lost in upper case. -/
theorem uppercase_ne_nil (c : Char) : uppercase c ≠ [] := by
  obtain ⟨codes, member, mapped⟩ | ⟨shift, member, inside, mapped⟩ | mapped :=
    mapCase_cases upperExpansions upperShifts c
  · have checked : ∀ expansion ∈ upperExpansions,
        expansion.2.map Char.ofNat ≠ [] := by
      decide
    rw [uppercase, mapped]
    exact checked _ member
  · rw [uppercase, mapped]
    exact List.cons_ne_nil _ _
  · rw [uppercase, mapped]
    exact List.cons_ne_nil c []

/-- The Kelvin sign, which in lower case is the letter k. -/
def kelvinSign : Char := '\u212a'

theorem lowercase_kelvinSign : lowercase kelvinSign = ['k'] := by
  decide +kernel

/-- Whether what a run of characters is shifted to are characters. -/
def CaseShift.IsValid (shift : CaseShift) : Prop :=
  0 ≤ shift.run.first + shift.distance ∧
    (shift.run.last + shift.distance < 0xD800 ∨
      (0xE000 ≤ shift.run.first + shift.distance ∧
        shift.run.last + shift.distance < 0x110000))

instance (shift : CaseShift) : Decidable shift.IsValid :=
  inferInstanceAs (Decidable (_ ∧ _))

theorem CaseShift.bounds_of_contains {shift : CaseShift}
    (inside : shift.run.contains c) :
    shift.run.first ≤ c.toNat ∧ c.toNat ≤ shift.run.last := by
  simp only [CodeRun.contains, Bool.and_eq_true, decide_eq_true_eq] at inside
  exact inside.1

theorem CaseShift.toNat_shifted {shift : CaseShift} (valid : shift.IsValid)
    (inside : shift.run.contains c) :
    ((Char.ofNat (c.toNat + shift.distance).toNat).toNat : Int) =
      c.toNat + shift.distance := by
  obtain ⟨above, below⟩ := bounds_of_contains inside
  obtain ⟨natural, inRange⟩ := valid
  have isChar : (c.toNat + shift.distance).toNat.isValidChar := by
    unfold Nat.isValidChar
    omega
  have code : (Char.ofNat (c.toNat + shift.distance).toNat).toNat =
      (c.toNat + shift.distance).toNat := by
    rw [Char.ofNat, dif_pos isChar]
    rfl
  omega

/-- Beyond ASCII, the lower case of all but the Kelvin sign lies beyond ASCII,
too. -/
theorem exists_foreign_lowercase (beyond : 128 ≤ c.toNat)
    (other : c ≠ kelvinSign) : ∃ d ∈ lowercase c, 128 ≤ d.toNat := by
  obtain ⟨codes, member, mapped⟩ | ⟨shift, member, inside, mapped⟩ | mapped :=
    mapCase_cases lowerExpansions lowerShifts c
  · have checked : ∀ expansion ∈ lowerExpansions,
        ∃ code ∈ expansion.2, 128 ≤ (Char.ofNat code).toNat := by
      decide
    obtain ⟨code, known, foreign⟩ := checked _ member
    refine ⟨Char.ofNat code, ?_, foreign⟩
    rw [lowercase, mapped]
    exact List.mem_map_of_mem known
  · have checked : ∀ shift ∈ lowerShifts, shift.run.last < 128 ∨
        shift.run = ⟨0x212A, 0x212A, 1⟩ ∨
        shift.IsValid ∧ 128 ≤ shift.run.first + shift.distance := by
      decide +kernel
    obtain ⟨above, below⟩ := CaseShift.bounds_of_contains inside
    refine ⟨_, by rw [lowercase, mapped]; exact List.mem_singleton_self _, ?_⟩
    obtain ascii | kelvin | ⟨valid, foreign⟩ := checked shift member
    · omega
    · rw [kelvin] at above below
      apply absurd _ other
      apply Char.toNat_inj.mp
      exact Nat.le_antisymm below above
    · have code := CaseShift.toNat_shifted valid inside
      omega
  · exact ⟨c, by rw [lowercase, mapped]; exact List.mem_singleton_self c,
      beyond⟩

theorem underscore_not_mem_uppercase (other : c ≠ '_') :
    '_' ∉ uppercase c := by
  have code : '_'.toNat = 0x5F := rfl
  obtain ⟨codes, member, mapped⟩ | ⟨shift, member, inside, mapped⟩ | mapped :=
    mapCase_cases upperExpansions upperShifts c
  · have checked : ∀ expansion ∈ upperExpansions,
        '_' ∉ expansion.2.map Char.ofNat := by
      decide +kernel
    rw [uppercase, mapped]
    exact checked _ member
  · have checked : ∀ shift ∈ upperShifts, shift.IsValid ∧
        (shift.run.last + shift.distance < 0x5F ∨
          0x5F < shift.run.first + shift.distance) := by
      decide +kernel
    obtain ⟨valid, avoids⟩ := checked shift member
    obtain ⟨above, below⟩ := CaseShift.bounds_of_contains inside
    have shifted := CaseShift.toNat_shifted valid inside
    rw [uppercase, mapped, List.mem_singleton]
    intro same
    rw [← same, code] at shifted
    omega
  · rw [uppercase, mapped, List.mem_singleton]
    exact other.symm

end SqlExpr.Text
