import SqlExpr.Error
import SqlExpr.Schema.Attribute

/-!
# Entries of attributes

The attributes of an item say what their entries say, one after the other.
Entries stand in parentheses with commas between them, and a comma may also
stand behind the last one.  Of attributes with another path nothing is read.
-/

namespace SqlExpr.Schema

/-- A comma. -/
abbrev comma : Token := .mark ','

section

variable {α σ : Type} {Spells : List Token → α → Prop}
  {read : σ → List Token → SchemaResult σ} {update : σ → α → σ}

/-- The tokens of several entries, if `Spells` says what the tokens of a single
entry stand for. -/
inductive ListEntries (Spells : List Token → α → Prop) :
    List Token → List α → Prop where
  | nil : ListEntries Spells [] []
  | last {tokens : List Token} {entry : α} :
      Spells tokens entry → ListEntries Spells tokens [entry]
  | next {tokens rest : List Token} {entry : α} {entries : List α} :
      Spells tokens entry → ListEntries Spells rest entries →
      ListEntries Spells (tokens ++ comma :: rest) (entry :: entries)

/-- Attributes in which all entries that concern the table are written as
`Spells` says. -/
inductive SayEntries (Spells : List Token → α → Prop) :
    List Attribute → List α → Prop where
  | nil : SayEntries Spells [] []
  | foreign {given : Attribute} {others : List Attribute} {entries : List α} :
      ¬ given.isOfTable → SayEntries Spells others entries →
      SayEntries Spells (given :: others) entries
  | table {tokens : List Token} {others : List Attribute}
      {own entries : List α} :
      ListEntries Spells tokens own → SayEntries Spells others entries →
      SayEntries Spells (⟨[.name "table"], .list tokens⟩ :: others)
        (own ++ entries)

/-- A reader of single entries, each of which it also reads with a comma and
other tokens behind it. -/
structure Reads (Spells : List Token → α → Prop)
    (read : σ → List Token → SchemaResult σ) (update : σ → α → σ) : Prop where
  ne_nil : ∀ {tokens entry}, Spells tokens entry → tokens ≠ []
  comma_not_mem : ∀ {tokens entry}, Spells tokens entry → comma ∉ tokens
  unique : ∀ {tokens entry other}, Spells tokens entry →
    Spells tokens other → entry = other
  read_eq_ok_iff : ∀ {state result tokens}, read state tokens = .ok result ↔
    ∃ own entry rest, tokens = own ++ rest ∧ Spells own entry ∧
      (rest = [] ∨ ∃ more, rest = comma :: more) ∧
      result = update state entry

theorem ListEntries.exists_spells {tokens : List Token} {entries : List α}
    {entry : α} (listed : ListEntries Spells tokens entries)
    (member : entry ∈ entries) : ∃ tokens, Spells tokens entry := by
  induction listed with
  | nil => cases member
  | last spelled =>
      cases List.mem_singleton.mp member
      exact ⟨_, spelled⟩
  | next spelled _ induction =>
      obtain rfl | later := List.mem_cons.mp member
      · exact ⟨_, spelled⟩
      · exact induction later

theorem SayEntries.exists_spells {attributes : List Attribute}
    {entries : List α} {entry : α}
    (said : SayEntries Spells attributes entries)
    (member : entry ∈ entries) : ∃ tokens, Spells tokens entry := by
  induction said with
  | nil => cases member
  | foreign _ _ induction => exact induction member
  | table listed _ induction =>
      obtain own | later := List.mem_append.mp member
      · exact listed.exists_spells own
      · exact induction later

/-! ## Commas -/

theorem splitEntries_whole {tokens : List Token} (longer : tokens ≠ [])
    (whole : comma ∉ tokens) : splitEntries tokens = [tokens] := by
  induction tokens with
  | nil => exact absurd rfl longer
  | cons token rest induction =>
      rw [List.mem_cons, not_or] at whole
      rw [splitEntries, if_neg (Ne.symm whole.1)]
      cases rest with
      | nil => rfl
      | cons next rest => rw [induction (List.cons_ne_nil next rest) whole.2]

/-- The first entry ends with the first comma. -/
theorem splitEntries_comma {first : List Token} (whole : comma ∉ first)
    (rest : List Token) :
    splitEntries (first ++ comma :: rest) =
      (first ++ [comma]) :: splitEntries rest := by
  induction first with
  | nil => exact if_pos rfl
  | cons token first induction =>
      rw [List.mem_cons, not_or] at whole
      rw [List.cons_append, splitEntries, if_neg (Ne.symm whole.1),
        induction whole.2]
      rfl

theorem eq_of_append_comma {first own rest more : List Token}
    (whole : comma ∉ first) (ownWhole : comma ∉ own)
    (same : own ++ comma :: more = first ++ comma :: rest) :
    own = first ∧ more = rest := by
  have split := congrArg splitEntries same
  rw [splitEntries_comma whole, splitEntries_comma ownWhole,
    List.cons.injEq] at split
  have equal : own = first := List.append_cancel_right split.1
  rw [equal] at same
  exact ⟨equal, List.cons.inj (List.append_cancel_left same) |>.2⟩

/-! ## Reading -/

theorem listEntries_whole_iff {tokens : List Token} {entries : List α}
    (longer : tokens ≠ []) (whole : comma ∉ tokens) :
    ListEntries Spells tokens entries ↔
      ∃ entry, Spells tokens entry ∧ entries = [entry] := by
  constructor
  · intro listed
    cases listed with
    | nil => exact absurd rfl longer
    | last spelled => exact ⟨_, spelled, rfl⟩
    | next spelled others => simp at whole
  · rintro ⟨entry, spelled, rfl⟩
    exact .last spelled

theorem readAttributes_foreign {state : σ} {given : Attribute}
    (foreign : ¬ given.isOfTable) (others : List Attribute) :
    readAttributes read state (given :: others) =
      readAttributes read state others := by
  unfold readAttributes
  rw [List.filter_cons_of_neg foreign]

theorem readAttributes_own {state : σ} {given : Attribute}
    (own : given.isOfTable) (others : List Attribute) :
    readAttributes read state (given :: others) =
      (given.body.entries >>= fun entries => entries.foldlM read state) >>=
        fun state => readAttributes read state others := by
  unfold readAttributes
  rw [List.filter_cons_of_pos own, List.foldlM_cons]

namespace Reads

variable (reads : Reads Spells read update) {state result : σ}
  {tokens rest : List Token} {entries : List α}
include reads

theorem listEntries_nil_iff : ListEntries Spells [] entries ↔ entries = [] := by
  constructor
  · intro listed
    generalize none : ([] : List Token) = tokens at listed
    cases listed with
    | nil => rfl
    | last spelled => exact absurd none.symm (reads.ne_nil spelled)
    | next spelled others => simp at none
  · rintro rfl
    exact .nil

theorem listEntries_comma_iff (whole : comma ∉ tokens) :
    ListEntries Spells (tokens ++ comma :: rest) entries ↔
      ∃ entry others, Spells tokens entry ∧ ListEntries Spells rest others ∧
        entries = entry :: others := by
  constructor
  · intro listed
    generalize split : tokens ++ comma :: rest = all at listed
    cases listed with
    | nil => simp at split
    | last spelled =>
        apply absurd _ (reads.comma_not_mem spelled)
        rw [← split]
        exact List.mem_append_right tokens List.mem_cons_self
    | next spelled others =>
        obtain ⟨rfl, rfl⟩ :=
          eq_of_append_comma (reads.comma_not_mem spelled) whole split
        exact ⟨_, _, spelled, others, rfl⟩
  · rintro ⟨entry, others, spelled, listed, rfl⟩
    exact .next spelled listed

theorem listEntries_unique {others : List α}
    (first : ListEntries Spells tokens entries)
    (second : ListEntries Spells tokens others) : entries = others := by
  induction first generalizing others with
  | nil => exact (reads.listEntries_nil_iff.mp second).symm
  | last spelled =>
      obtain ⟨other, otherSpelled, rfl⟩ :=
        (listEntries_whole_iff (reads.ne_nil spelled)
          (reads.comma_not_mem spelled)).mp second
      rw [reads.unique spelled otherSpelled]
  | next spelled listed induction =>
      obtain ⟨other, rest, otherSpelled, otherListed, rfl⟩ :=
        (reads.listEntries_comma_iff (reads.comma_not_mem spelled)).mp second
      rw [reads.unique spelled otherSpelled, induction otherListed]

/-- What attributes say is not open to doubt. -/
theorem sayEntries_unique {attributes : List Attribute} {others : List α}
    (first : SayEntries Spells attributes entries)
    (second : SayEntries Spells attributes others) : entries = others := by
  induction first generalizing others with
  | nil =>
      cases second
      rfl
  | foreign foreign said induction =>
      cases second with
      | foreign _ otherSaid => exact induction otherSaid
      | table _ _ => exact absurd rfl foreign
  | table listed said induction =>
      cases second with
      | foreign foreign _ => exact absurd rfl foreign
      | table otherListed otherSaid =>
          rw [reads.listEntries_unique listed otherListed,
            induction otherSaid]

/-- An entry without a comma is read whole. -/
theorem read_whole (whole : comma ∉ tokens) :
    read state tokens = .ok result ↔
      ∃ entry, Spells tokens entry ∧ result = update state entry := by
  rw [reads.read_eq_ok_iff]
  constructor
  · rintro ⟨own, entry, _, rfl, spelled, rfl | ⟨more, rfl⟩, updated⟩
    · rw [List.append_nil]
      exact ⟨entry, spelled, updated⟩
    · simp at whole
  · rintro ⟨entry, spelled, updated⟩
    exact ⟨tokens, entry, [], (List.append_nil _).symm, spelled, .inl rfl,
      updated⟩

/-- An entry is read up to its comma. -/
theorem read_comma (whole : comma ∉ tokens) :
    read state (tokens ++ [comma]) = .ok result ↔
      ∃ entry, Spells tokens entry ∧ result = update state entry := by
  rw [reads.read_eq_ok_iff]
  constructor
  · rintro ⟨own, entry, _, split, spelled, rfl | ⟨more, rfl⟩, updated⟩
    · apply absurd _ (reads.comma_not_mem spelled)
      rw [← List.append_nil own, ← split]
      exact List.mem_append_right tokens List.mem_cons_self
    · obtain ⟨rfl, _⟩ :=
        eq_of_append_comma whole (reads.comma_not_mem spelled) split.symm
      exact ⟨entry, spelled, updated⟩
  · rintro ⟨entry, spelled, updated⟩
    exact ⟨tokens, entry, [comma], rfl, spelled, .inr ⟨[], rfl⟩, updated⟩

/-- The entries of one attribute are read one by one. -/
theorem foldlM_entries_eq_ok_iff :
    (splitEntries tokens).foldlM read state = .ok result ↔
      ∃ entries, ListEntries Spells tokens entries ∧
        result = entries.foldl update state := by
  -- The rest behind the first comma is shorter.
  induction length : tokens.length using Nat.strongRecOn
    generalizing tokens state with
  | ind count induction =>
      by_cases more : comma ∈ tokens
      · obtain ⟨first, rest, rfl, whole⟩ := List.eq_append_cons_of_mem more
        have shorter : rest.length < count := by
          rw [← length, List.length_append, List.length_cons]
          omega
        rw [splitEntries_comma whole, List.foldlM_cons, bind_eq_ok_iff]
        simp only [reads.read_comma whole, reads.listEntries_comma_iff whole,
          induction rest.length shorter rfl]
        constructor
        · rintro ⟨_, ⟨entry, spelled, rfl⟩, others, listed, updated⟩
          exact ⟨_, ⟨entry, others, spelled, listed, rfl⟩, updated⟩
        · rintro ⟨_, ⟨entry, others, spelled, listed, rfl⟩, updated⟩
          exact ⟨_, ⟨entry, spelled, rfl⟩, others, listed, updated⟩
      · by_cases none : tokens = []
        · simp only [none, reads.listEntries_nil_iff, exists_eq_left]
          change Except.ok state = Except.ok result ↔ result = state
          rw [Except.ok.injEq, eq_comm]
        · rw [splitEntries_whole none more, List.foldlM_cons, bind_eq_ok_iff]
          simp only [reads.read_whole more,
            listEntries_whole_iff none more]
          constructor
          · rintro ⟨_, ⟨entry, spelled, rfl⟩, ⟨⟩⟩
            exact ⟨_, ⟨entry, spelled, rfl⟩, rfl⟩
          · rintro ⟨_, ⟨entry, spelled, rfl⟩, rfl⟩
            exact ⟨_, ⟨entry, spelled, rfl⟩, rfl⟩

/-- Attributes are read exactly if all their entries are written well. -/
theorem readAttributes_eq_ok_iff {attributes : List Attribute} :
    readAttributes read state attributes = .ok result ↔
      ∃ entries, SayEntries Spells attributes entries ∧
        result = entries.foldl update state := by
  induction attributes generalizing state with
  | nil =>
      constructor
      · rintro ⟨⟩
        exact ⟨[], .nil, rfl⟩
      · rintro ⟨_, ⟨⟩, rfl⟩
        rfl
  | cons given others induction =>
      by_cases own : given.isOfTable
      · obtain ⟨path, body⟩ := given
        obtain rfl : path = [.name "table"] := by
          simpa [Attribute.isOfTable] using own
        rw [readAttributes_own own]
        cases body with
        | empty =>
            constructor
            · intro success
              cases success
            · rintro ⟨_, _ | ⟨foreign, _⟩, _⟩
              exact absurd own foreign
        | value =>
            constructor
            · intro success
              cases success
            · rintro ⟨_, _ | ⟨foreign, _⟩, _⟩
              exact absurd own foreign
        | list tokens =>
            change ((splitEntries tokens).foldlM read state >>= _) = _ ↔ _
            simp only [bind_eq_ok_iff, reads.foldlM_entries_eq_ok_iff,
              induction]
            constructor
            · rintro ⟨_, ⟨first, listed, rfl⟩, rest, said, rfl⟩
              exact ⟨first ++ rest, .table listed said, by
                rw [List.foldl_append]⟩
            · rintro ⟨_, _ | ⟨foreign, _⟩ | ⟨listed, said⟩, rfl⟩
              · exact absurd own foreign
              · exact ⟨_, ⟨_, listed, rfl⟩, _, said, by
                  rw [List.foldl_append]⟩
      · rw [readAttributes_foreign own, induction]
        constructor
        · rintro ⟨entries, said, updated⟩
          exact ⟨entries, .foreign own said, updated⟩
        · rintro ⟨entries, _ | ⟨_, said⟩ | _, updated⟩
          · exact ⟨entries, said, updated⟩
          · exact absurd rfl own

end Reads

end

end SqlExpr.Schema
