/-!
# Entries sorted by key

A list of entries in ascending order of their keys, with one entry for each
key.  Keys are compared by code point, which is also the order of their bytes.
-/

namespace SqlExpr

/-- Entries in ascending order of their keys. -/
abbrev Keyed (α : Type u) := List (String × α)

namespace Keyed

variable {α : Type u}

/-- Enter a value under a key, in place of the one entered before, if any. -/
def insert (key : String) (value : α) : Keyed α → Keyed α
  | [] => [(key, value)]
  | (other, old) :: rest =>
    if key = other then (key, value) :: rest
    else if key < other then (key, value) :: (other, old) :: rest
    else (other, old) :: insert key value rest

/-- The entries of a sequence of insertions; the last one for a key stays. -/
def ofList (entries : List (String × α)) : Keyed α :=
  entries.foldl (fun keyed (key, value) => keyed.insert key value) []

/-- The value entered under a key. -/
def get? (keyed : Keyed α) (key : String) : Option α := keyed.lookup key

/-- The keys in ascending order. -/
def keys (keyed : Keyed α) : List String := keyed.map Prod.fst

@[simp] theorem get?_nil (key : String) : get? ([] : Keyed α) key = none :=
  rfl

theorem get?_cons (key other : String) (value : α) (rest : Keyed α) :
    get? ((other, value) :: rest) key =
      if key = other then some value else rest.get? key := by
  by_cases equal : key = other
  · simp [get?, equal]
  · have different : (key == other) = false := by simp [equal]
    simp [get?, List.lookup_cons, equal, different]

/-- An insertion changes the value under its own key and under no other. -/
theorem get?_insert (key other : String) (value : α) (keyed : Keyed α) :
    (keyed.insert key value).get? other =
      if other = key then some value else keyed.get? other := by
  induction keyed with
  | nil => simp [insert, get?_cons]
  | cons entry rest induction =>
    obtain ⟨first, old⟩ := entry
    by_cases equal : key = first
    · subst first
      by_cases same : other = key <;> simp [insert, get?_cons, same]
    · by_cases less : key < first
      · simp [insert, get?_cons, equal, less]
      · by_cases same : other = first
        · subst first
          simp [insert, get?_cons, Ne.symm equal, equal, less]
        · simp [insert, get?_cons, equal, less, same, induction]

end Keyed

end SqlExpr
