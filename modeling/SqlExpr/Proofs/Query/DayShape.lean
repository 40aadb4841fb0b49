import SqlExpr.Proofs.Calendar.DayGrammar
import SqlExpr.Query.Argument

/-!
# The shape of a day's text

The text of a day is a day, possibly with a time part behind it that a `T` or
a blank sets off.  What is read is one day of this shape, unless a text is cut
short: no more than its first ten bytes are looked at, and if these are a day
by themselves, then whatever goes on behind them is taken for a time part.
-/

namespace SqlExpr

open SqlExpr.Calendar SqlExpr.Text

namespace Calendar.DayText

/-- Nothing follows a day, or something that is set off from it. -/
def SetsOff (rest : List Char) : Prop := ∀ c ∈ rest.head?, c = 'T' ∨ isBlank c

/-- The text is that of a day, possibly with a time part behind it. -/
def ShowsDay (text : List Char) (date : Date) : Prop :=
  ∃ front rest, text = front ++ rest ∧ SpellsDay front date ∧ SetsOff rest

/-- The bytes that a text takes up. -/
def byteCount : List Char → Nat
  | [] => 0
  | c :: text => c.utf8Size + byteCount text

/-- The first ten bytes are those of a day, and what follows them directly is
not set off from it. -/
def IsCutShort (text : List Char) : Prop :=
  ∃ front c rest date, text = front ++ c :: rest ∧ byteCount front = 10 ∧
    SpellsDay front date ∧ c ≠ 'T' ∧ isBlank c = false

/-- What follows a day directly and is no `T` and no blank is not set off. -/
theorem not_setsOff_cons {c : Char} {rest : List Char} (mark : c ≠ 'T')
    (visible : isBlank c = false) : ¬ SetsOff (c :: rest) := by
  intro setsOff
  rcases setsOff c rfl with time | blank
  · exact mark time
  · rw [visible] at blank
    cases blank

theorem byteCount_cons (c : Char) (text : List Char) :
    byteCount (c :: text) = c.utf8Size + byteCount text := rfl

variable {text front : List Char} {date : Date}

theorem leadingBytes?_eq_some_iff {size : Nat} :
    leadingBytes? size text = some front ↔
      byteCount front = size ∧ ∃ rest, text = front ++ rest := by
  fun_induction leadingBytes? size text generalizing front with
  | case1 text =>
      constructor
      · intro same
        cases same
        exact ⟨rfl, text, rfl⟩
      · rintro ⟨none, -⟩
        cases front with
        | nil => rfl
        | cons c front =>
            have positive := c.utf8Size_pos
            rw [byteCount_cons] at none
            omega
  | case2 size positive =>
      apply iff_of_false nofun
      rintro ⟨count, rest, split⟩
      rw [(List.append_eq_nil_iff.mp split.symm).1] at count
      exact positive count.symm
  | case3 size c text fits induction =>
      rw [Option.map_eq_some_iff]
      constructor
      · rintro ⟨more, found, rfl⟩
        obtain ⟨count, rest, rfl⟩ := induction.mp found
        rw [byteCount_cons]
        exact ⟨by omega, rest, rfl⟩
      · rintro ⟨count, rest, split⟩
        cases front with
        | nil => cases count
        | cons d more =>
            obtain ⟨rfl, rfl⟩ := List.cons.inj split
            rw [byteCount_cons] at count
            exact ⟨more, induction.mpr ⟨by omega, rest, rfl⟩, rfl⟩
  | case4 size c text wide =>
      apply iff_of_false nofun
      rintro ⟨count, rest, split⟩
      cases front with
      | nil => cases count
      | cons d more =>
          obtain ⟨rfl, -⟩ := List.cons.inj split
          rw [byteCount_cons] at count
          omega

/-- A day is read from a whole text, or from its first ten bytes. -/
theorem exists_of_read (success : read text = .ok date) :
    ∃ front rest, text = front ++ rest ∧ SpellsDay front date ∧
      (byteCount front = 10 ∨ rest = []) := by
  have spells := readDate_eq_ok_iff.mp success
  unfold datePart at spells
  cases first : leadingBytes? 10 text with
  | none =>
      rw [first] at spells
      exact ⟨text, [], (List.append_nil text).symm, spells, .inr rfl⟩
  | some front =>
      rw [first] at spells
      obtain ⟨count, rest, split⟩ := leadingBytes?_eq_some_iff.mp first
      exact ⟨front, rest, split, spells, .inl count⟩

/-- A day of ten bytes is read whatever follows it. -/
theorem read_append (spells : SpellsDay front date)
    (ten : byteCount front = 10) (rest : List Char) :
    read (front ++ rest) = .ok date := by
  have first : leadingBytes? 10 (front ++ rest) = some front :=
    leadingBytes?_eq_some_iff.mpr ⟨ten, rest, rfl⟩
  rw [read, datePart, first]
  exact readDate_eq_ok_iff.mpr spells

theorem showsDay_of_read (kept : ¬ IsCutShort text)
    (success : read text = .ok date) : ShowsDay text date := by
  obtain ⟨front, rest, rfl, spells, ten | rfl⟩ := exists_of_read success
  · refine ⟨front, rest, rfl, spells, ?_⟩
    intro c first
    obtain ⟨more, rfl⟩ := List.head?_eq_some_iff.mp first
    by_contra other
    rw [not_or, Bool.not_eq_true] at other
    exact kept ⟨front, c, more, date, rfl, ten, spells, other⟩
  · exact ⟨front, [], rfl, spells, nofun⟩

/-- A text that is cut short shows no day that is read from it. -/
theorem IsCutShort.exists_read (cut : IsCutShort text) :
    ∃ date, read text = .ok date ∧ ¬ ShowsDay text date := by
  obtain ⟨front, c, rest, date, rfl, ten, spells, mark, visible⟩ := cut
  refine ⟨date, read_append spells ten (c :: rest), ?_⟩
  rintro ⟨other, behind, split, otherSpells, setsOff⟩
  have further : behind ≠ c :: rest := by
    rintro rfl
    exact not_setsOff_cons mark visible setsOff
  rcases List.append_eq_append_iff.mp split with
    ⟨more, rfl, begins⟩ | ⟨more, rfl, begins⟩
  · -- The day that is shown is longer than the first ten bytes.
    cases more with
    | nil => exact absurd begins.symm further
    | cons d more => exact (spells.day_ne_of_longer otherSpells).2 rfl
  · -- It is shorter, and a digit goes on with it.
    cases more with
    | nil => exact absurd begins further
    | cons d more =>
        have digit := (otherSpells.day_ne_of_longer spells).1
        rw [begins] at setsOff
        refine not_setsOff_cons ?_ ?_ setsOff
        · rintro rfl
          cases digit
        · exact isBlank_of_isDateTimeChar (isDateTimeChar_of_isDigit digit)

end Calendar.DayText

open Calendar.DayText

/-- A text is read as the day that it shows, and is refused if it shows
none. -/
structure DayRef.KeepsShape (text : String) : Prop where
  shown : ∀ date, (DayRef.text text).resolve = .ok date →
    ShowsDay (trim text).toList date
  refused : (∀ date, ¬ ShowsDay (trim text).toList date) →
    ∃ cause, (DayRef.text text).resolve = .error (.validation cause)

theorem DayRef.resolve_text_eq_ok_iff {text : String} {date : Date} :
    (DayRef.text text).resolve = .ok date ↔
      read (trim text).toList = .ok date := by
  unfold resolve
  dsimp only
  split <;> simp [*]

/-- A text that is not read as a day is refused. -/
theorem DayRef.resolve_text_of_not_ok {text : String}
    (other : ∀ date, (DayRef.text text).resolve ≠ .ok date) :
    ∃ cause, (DayRef.text text).resolve = .error (.validation cause) := by
  unfold resolve at other ⊢
  dsimp only at other ⊢
  split at other
  · next date _ => exact absurd rfl (other date)
  · exact ⟨_, rfl⟩

/-- What is read of a text is the day that it shows, unless its first ten bytes
are a day and something else than a time part follows them. -/
theorem DayRef.keepsShape_iff (text : String) :
    KeepsShape text ↔ ¬ IsCutShort (trim text).toList := by
  constructor
  · intro keeps cut
    obtain ⟨date, success, hidden⟩ := cut.exists_read
    exact hidden (keeps.shown date (resolve_text_eq_ok_iff.mpr success))
  · intro kept
    have shown (date : Date)
        (success : (DayRef.text text).resolve = .ok date) :
        ShowsDay (trim text).toList date :=
      showsDay_of_read kept (resolve_text_eq_ok_iff.mp success)
    refine ⟨shown, fun none => resolve_text_of_not_ok ?_⟩
    intro date success
    exact none date (shown date success)

/-- A third digit behind a day is dropped, though the text shows no day. -/
theorem DayRef.not_keepsShape_of_third_digit :
    (DayRef.text "2024-03-155").resolve = .ok ⟨2024, 3, 15, by decide⟩ ∧
      (∀ date, ¬ ShowsDay "2024-03-155".toList date) ∧
      ¬ KeepsShape "2024-03-155" := by
  have trimmed : trim "2024-03-155" = "2024-03-155" := rfl
  have ten : SpellsDay "2024-03-15".toList ⟨2024, 3, 15, by decide⟩ :=
    readDate_eq_ok_iff.mp rfl
  refine ⟨rfl, ?_, ?_⟩
  · rintro date ⟨front, rest, split, spells, setsOff⟩
    have spelled : "2024-03-155".toList.all fun c =>
        c != 'T' && !isBlank c := rfl
    have others : ∀ c ∈ "2024-03-155".toList, c ≠ 'T' ∧ isBlank c = false := by
      simpa using List.all_eq_true.mp spelled
    cases rest with
    | nil =>
        have refused : readDate "2024-03-155".toList =
            .error .trailingInput := rfl
        rw [List.append_nil] at split
        rw [← split, ← readDate_eq_ok_iff, refused] at spells
        cases spells
    | cons c rest =>
        obtain ⟨mark, visible⟩ := others c (by simp [split])
        exact not_setsOff_cons mark visible setsOff
  · rw [keepsShape_iff, not_not, trimmed]
    exact ⟨_, '5', [], _, rfl, rfl, ten, by decide, by decide⟩

end SqlExpr
