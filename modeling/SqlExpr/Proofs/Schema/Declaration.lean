import Mathlib.Data.List.TakeWhile
import SqlExpr.Proofs.Text.LetterCase
import SqlExpr.Proofs.Text.Pieces
import SqlExpr.Schema.Derivation

/-!
# Declared names

The fields that are read from a text have their names from its tokens.  The
names among the tokens of a text have no blanks in them, and so neither have the
names of fields.
-/

namespace SqlExpr.Schema

open SqlExpr.Number SqlExpr.Text

/-- A field as it can be declared: there are no blanks in its name. -/
def Field.IsNamed (field : Field) : Prop :=
  ∀ c ∈ (unmarked field.name).toList, isBlank c = false

theorem Field.IsNamed.trim_name {field : Field} (named : field.IsNamed) :
    trim (unmarked field.name) = unmarked field.name := by
  apply trim_eq_self
  · intro c first
    exact named c (List.mem_of_mem_head? first)
  · intro c last
    exact named c (List.mem_of_getLast? last)

/-! ## Tokens -/

/-- A token that has no blanks in it if it is a name. -/
def Token.IsSolid (token : Token) : Prop :=
  ∀ name, token = .name name → ∀ c ∈ name.toList, isBlank c = false

theorem Token.isSolid_of_ne {token : Token}
    (other : ∀ name, token ≠ .name name) : token.IsSolid :=
  fun name same => absurd same (other name)

theorem Token.isSolid_name {name : String} :
    (Token.name name).IsSolid ↔ ∀ c ∈ name.toList, isBlank c = false := by
  constructor
  · intro solid
    exact solid name rfl
  · rintro solid _ ⟨⟩
    exact solid

theorem Token.isSolid_of_all {name : String}
    (checked : name.toList.all (!isBlank ·)) : (Token.name name).IsSolid := by
  rw [isSolid_name]
  intro c member
  simpa using List.all_eq_true.mp checked c member

theorem isBlank_of_isNameChar {c : Char} (inside : isNameChar c) :
    isBlank c = false := by
  by_cases ascii : c.toNat < 128
  · revert inside
    apply ascii_forall ?_ ascii
    decide +kernel
  · have code : c.toNat = c.val.toNat := rfl
    have lower : 'z'.val.toNat = 122 := rfl
    have upper : 'Z'.val.toNat = 90 := rfl
    have digit : '9'.val.toNat = 57 := rfl
    simp only [isNameChar, isDigit, Bool.or_eq_true, Bool.and_eq_true,
      decide_eq_true_eq, beq_iff_eq, Char.le_def, UInt32.le_iff_toNat_le,
      Bool.not_eq_true'] at inside
    obtain (((_ | _) | _) | rfl) | ⟨_, visible⟩ := inside
    · omega
    · omega
    · omega
    · exact absurd (by decide) ascii
    · simp only [isSpace, Bool.or_eq_false_iff] at visible
      exact visible.1.1

theorem isBlank_of_mem_takeWhile {text : List Char} {c : Char}
    (member : c ∈ text.takeWhile isNameChar) : isBlank c = false :=
  isBlank_of_isNameChar (List.mem_takeWhile_imp member)

theorem readName?_isSolid {text rest : List Char} {token : Token}
    (read : readName? text = some (token, rest)) : token.IsSolid := by
  unfold readName? at read
  split at read
  next c rest =>
    split at read
    next =>
      cases read
      rw [Token.isSolid_name, String.toList_ofList]
      simp only [List.forall_mem_cons]
      exact ⟨by decide, by decide, fun _ => isBlank_of_mem_takeWhile⟩
    next =>
      cases read
      exact Token.isSolid_of_all (by decide)
  next c rest _ =>
    split at read
    next =>
      cases read
      rw [Token.isSolid_name, String.toList_ofList]
      exact fun _ => isBlank_of_mem_takeWhile
    next => cases read
  next => cases read

theorem readLiteral?_isSolid {text rest : List Char} {token : Token}
    (read : readLiteral? text = some (token, rest)) : token.IsSolid := by
  unfold readLiteral? at read
  split at read
  all_goals try cases read
  all_goals
    obtain ⟨_, _, last⟩ := Option.map_eq_some_iff.mp read
    cases last
    exact Token.isSolid_of_ne (by simp)

theorem isSolid_of_mem_documentation {inner : Bool} {text : List Char}
    {token : Token} (member : token ∈ documentation inner text) :
    token.IsSolid := by
  rintro name rfl
  have own : name = "doc" := by
    cases inner <;> simpa [documentation] using member
  rw [own]
  exact Token.isSolid_of_all (by decide) "doc" rfl

theorem isSolid_of_mem_readComment? {text rest : List Char}
    {tokens : List Token} {token : Token}
    (read : readComment? text = some (tokens, rest)) (member : token ∈ tokens) :
    token.IsSolid := by
  unfold readComment? at read
  split at read
  next =>
    cases read
    unfold lineTokens at member
    split at member
    · exact isSolid_of_mem_documentation member
    · cases member
    · exact isSolid_of_mem_documentation member
    · cases member
  next =>
    cases read
    unfold blockTokens at member
    split at member
    · exact isSolid_of_mem_documentation member
    · cases member
    · cases member
    · exact isSolid_of_mem_documentation member
    · cases member
  next => cases read

/-- There are no blanks in the names of a text. -/
theorem isSolid_of_mem_scan {fuel : Nat} {text : List Char} {token : Token}
    (member : token ∈ scan fuel text) : token.IsSolid := by
  fun_induction scan fuel text with
  | case1 text => cases member
  | case2 fuel longer => cases member
  | case3 fuel c rest space induction => exact induction member
  | case4 fuel c rest visible digit induction =>
      obtain rfl | later := List.mem_cons.mp member
      · exact Token.isSolid_of_ne (by simp)
      · exact induction later
  | case5 fuel c rest visible other tokens behind read induction =>
      obtain own | later := List.mem_append.mp member
      · exact isSolid_of_mem_readComment? read own
      · exact induction later
  | case6 fuel c rest visible other plain token behind read induction =>
      obtain rfl | later := List.mem_cons.mp member
      · exact readLiteral?_isSolid read
      · exact induction later
  | case7 fuel c rest visible other plain bare token behind read induction =>
      obtain rfl | later := List.mem_cons.mp member
      · exact readName?_isSolid read
      · exact induction later
  | case8 fuel rest visible other plain bare unnamed induction =>
      obtain rfl | later := List.mem_cons.mp member
      · exact Token.isSolid_of_ne (by simp)
      · exact induction later
  | case9 fuel c rest single visible other plain bare unnamed induction =>
      obtain rfl | later := List.mem_cons.mp member
      · exact Token.isSolid_of_ne (by simp)
      · exact induction later

/-! ## Reading -/

theorem splitClosed_subset (depth : Nat) (tokens : List Token) :
    (splitClosed depth tokens).1 ⊆ tokens ∧
      (splitClosed depth tokens).2 ⊆ tokens := by
  fun_induction splitClosed depth tokens with
  | case1 depth => simp
  | case2 token rest closes => simp
  | case3 token rest closes depth induction =>
      constructor
      · exact List.cons_subset_cons token induction.1
      · exact List.subset_cons_of_subset token induction.2
  | case4 depth token rest goes induction =>
      constructor
      · exact List.cons_subset_cons token induction.1
      · exact List.subset_cons_of_subset token induction.2

theorem skipUntil_subset (ends : Token → Bool) (brackets angles : Nat)
    (tokens : List Token) : skipUntil ends brackets angles tokens ⊆ tokens := by
  fun_induction skipUntil ends brackets angles tokens with
  | case1 brackets angles => exact List.Subset.refl []
  | case2 brackets angles rest induction =>
      apply List.subset_cons_of_subset
      exact List.subset_cons_of_subset _ induction
  | case3 brackets angles token rest arrow ends => exact List.Subset.refl _
  | case4 _ _ _ _ _ _ _ induction
  | case5 _ _ _ _ _ _ _ _ induction
  | case6 _ _ _ _ _ _ _ _ _ induction
  | case7 _ _ _ _ _ _ _ _ _ _ induction
  | case8 _ _ _ _ _ _ _ _ _ _ induction =>
      exact List.subset_cons_of_subset _ induction

theorem skipVisibility_subset (tokens : List Token) :
    skipVisibility tokens ⊆ tokens := by
  unfold skipVisibility
  split
  next rest =>
    apply List.subset_cons_of_subset
    exact List.subset_cons_of_subset _ (splitClosed_subset 0 rest).2
  next => exact List.subset_cons_self _ _
  next => exact List.Subset.refl tokens

theorem readAttributeRow_subset (fuel : Nat) (tokens : List Token) :
    (readAttributeRow fuel tokens).2 ⊆ tokens := by
  fun_induction readAttributeRow fuel tokens with
  | case1 fuel rest inner behind split attributes left read induction =>
      have inside := (splitClosed_subset 0 rest).2
      rw [split] at inside
      rw [read] at induction
      apply List.subset_cons_of_subset
      apply List.subset_cons_of_subset
      exact fun _ member => inside (induction member)
  | case2 fuel tokens none => exact List.Subset.refl tokens

/-- The fields that are read have their names from the tokens. -/
theorem name_mem_of_mem_readFields {fuel : Nat} {tokens : List Token}
    {field : Field} (member : field ∈ readFields fuel tokens) :
    .name field.name ∈ tokens := by
  fun_induction readFields fuel tokens with
  | case1 tokens => cases member
  | case2 tokens fuel attributes behind read name rest visible left induction =>
      have seen : .name name :: .mark ':' :: rest ⊆ tokens := by
        have behindInside := readAttributeRow_subset tokens.length tokens
        rw [read] at behindInside
        rw [← visible]
        exact List.Subset.trans (skipVisibility_subset behind) behindInside
      obtain rfl | later := List.mem_cons.mp member
      · exact seen List.mem_cons_self
      · apply seen
        apply List.mem_cons_of_mem
        apply List.mem_cons_of_mem
        apply skipUntil_subset (· == .mark ',') 0 0 rest
        exact List.mem_of_mem_drop (induction later)
  | case3 tokens fuel attributes behind read none => cases member

theorem skipParameters_subset (tokens : List Token) :
    skipParameters tokens ⊆ tokens := by
  unfold skipParameters
  dsimp only
  split
  next rest skipped =>
    have seen : .name "where" :: rest ⊆ tokens := by
      rw [← skipped]
      apply skipUntil_subset
    apply List.Subset.trans (skipUntil_subset _ 0 0 rest)
    exact List.Subset.trans (List.subset_cons_self _ rest) seen
  next => exact skipUntil_subset _ 0 0 tokens

theorem name_mem_of_readBody? {tokens : List Token} {kind : ItemKind}
    {fields : List Field} (read : readBody? tokens = some (kind, fields))
    {field : Field} (member : field ∈ fields) : .name field.name ∈ tokens := by
  unfold readBody? at read
  split at read
  next rest skipped =>
    cases read
    apply skipParameters_subset tokens
    rw [skipped]
    apply List.mem_cons_of_mem
    apply (splitClosed_subset 0 rest).1
    exact name_mem_of_mem_readFields member
  all_goals
    cases read
    try cases member

theorem Field.isNamed_of_isSolid {field : Field}
    (solid : (Token.name field.name).IsSolid) : field.IsNamed := by
  intro c member
  apply Token.isSolid_name.mp solid
  unfold unmarked at member
  split at member
  next rest marked =>
    rw [String.toList_ofList] at member
    rw [marked]
    exact List.mem_cons_of_mem _ (List.mem_cons_of_mem _ member)
  next => exact member

/-- There are no blanks in the names of the fields that a text declares. -/
theorem Declaration.isNamed_of_read? {text : String} {declaration : Declaration}
    (read : Declaration.read? text = some declaration) {field : Field}
    (member : field ∈ declaration.fields) : field.IsNamed := by
  apply Field.isNamed_of_isSolid
  suffices inside : .name field.name ∈ tokens text from
    isSolid_of_mem_scan inside
  unfold Declaration.read? at read
  dsimp only at read
  have seen : skipVisibility (readAttributeRow (tokens text).length
      (tokens text)).2 ⊆ tokens text :=
    List.Subset.trans (skipVisibility_subset _) (readAttributeRow_subset _ _)
  split at read
  next name rest visible =>
    obtain ⟨⟨kind, fields⟩, body, last⟩ := Option.bind_eq_some_iff.mp read
    cases last
    rw [visible] at seen
    apply seen
    apply List.mem_cons_of_mem
    apply List.mem_cons_of_mem
    exact name_mem_of_readBody? body member
  all_goals
    cases read
    try cases member

end SqlExpr.Schema
