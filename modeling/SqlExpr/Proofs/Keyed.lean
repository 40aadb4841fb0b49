import SqlExpr.Keyed

/-!
# The keys of sorted entries

An insertion keeps the keys in ascending order, so that no key has two
entries, and adds none but its own.
-/

namespace SqlExpr.Keyed

variable {α : Type u} {keyed : Keyed α} {key other : String} {value : α}

/-- The keys ascend, and so none of them is there twice. -/
def IsSorted (keyed : Keyed α) : Prop := keyed.keys.Pairwise (· < ·)

@[simp] theorem keys_nil : keys ([] : Keyed α) = [] := rfl

@[simp] theorem keys_cons {rest : Keyed α} :
    keys ((key, value) :: rest) = key :: rest.keys := rfl

theorem isSorted_nil : IsSorted ([] : Keyed α) := List.Pairwise.nil

theorem isSorted_cons {rest : Keyed α} :
    IsSorted ((key, value) :: rest) ↔
      (∀ other ∈ rest.keys, key < other) ∧ rest.IsSorted :=
  List.pairwise_cons

theorem mem_keys_iff : key ∈ keyed.keys ↔ (keyed.get? key).isSome := by
  induction keyed with
  | nil => simp
  | cons entry rest induction =>
      obtain ⟨first, value⟩ := entry
      rw [keys_cons, List.mem_cons, get?_cons, induction]
      by_cases equal : key = first <;> simp [equal]

theorem mem_keys_insert :
    other ∈ (keyed.insert key value).keys ↔
      other = key ∨ other ∈ keyed.keys := by
  rw [mem_keys_iff, mem_keys_iff, get?_insert]
  by_cases equal : other = key <;> simp [equal]

theorem IsSorted.insert (sorted : keyed.IsSorted) :
    (keyed.insert key value).IsSorted := by
  induction keyed with
  | nil => exact isSorted_cons.mpr ⟨by simp, isSorted_nil⟩
  | cons entry rest induction =>
      obtain ⟨first, old⟩ := entry
      obtain ⟨below, restSorted⟩ := isSorted_cons.mp sorted
      unfold Keyed.insert
      by_cases equal : key = first
      · subst first
        rw [if_pos rfl]
        exact isSorted_cons.mpr ⟨below, restSorted⟩
      · rw [if_neg equal]
        by_cases less : key < first
        · rw [if_pos less]
          refine isSorted_cons.mpr ⟨?_, sorted⟩
          intro other member
          rcases List.mem_cons.mp member with rfl | inside
          · exact less
          · exact String.lt_trans less (below other inside)
        · rw [if_neg less]
          refine isSorted_cons.mpr ⟨?_, induction restSorted⟩
          have greater : first < key :=
            Std.lt_of_le_of_ne (String.not_lt.mp less) (Ne.symm equal)
          intro other member
          rcases mem_keys_insert.mp member with rfl | inside
          · exact greater
          · exact below other inside

end SqlExpr.Keyed
