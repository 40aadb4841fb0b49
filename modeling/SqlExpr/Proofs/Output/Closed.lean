import SqlExpr.Proofs.Lexis.TypeText
import SqlExpr.Proofs.Output.Data

/-!
# Closed renderings

A rendering has no open quote, no comment, no semicolon and no unbalanced
bracket, whatever the tree holds, as long as the tree has no SQL text of its
own.  It can have a dollar quote: the check of a type name does not see that a
dollar directly behind a modifier begins one.  A rendering is closed exactly if
no type in the tree has such a dollar.
-/

namespace SqlExpr

open SqlExpr.Lexis SqlExpr.Text

/-- No type that a literal of the tree is cast to has a loose dollar. -/
def Node.TypesTight (node : Node) : Prop :=
  ∀ value sqlType, .literal value (some sqlType) ∈ node.subnodes →
    ¬ HasLooseDollar (trim sqlType).toList

namespace Part

variable {config : Config} {sqlType text : String}

private theorem isValid_of_cast
    (success : (cast sqlType).render config = .write text) :
    TypeName.isValid sqlType ∧ text = "::" ++ trim sqlType := by
  obtain ⟨checked, written⟩ := reads_cast success
  refine ⟨?_, written⟩
  unfold TypeName.check at checked
  split at checked
  · next valid => exact valid
  · cases checked

private theorem completes_colons :
    Completes "::".toList [.mark ':', .mark ':'] := rfl

theorem reads_tight_cast (tight : ¬ HasLooseDollar (trim sqlType).toList)
    (success : (cast sqlType).render config = .write text) :
    ∃ tokens, Reads text.toList tokens ∧ Nests [] [] tokens := by
  obtain ⟨valid, rfl⟩ := isValid_of_cast success
  obtain ⟨tokens, read, nests⟩ := reads_type valid tight
  have colons : Nests [] [] [.mark ':', .mark ':'] := .ofPlain (by decide)
  refine ⟨_, ?_, colons.append nests⟩
  rw [String.toList_append]
  exact completes_colons.append_reads read

theorem run_loose_cast (loose : HasLooseDollar (trim sqlType).toList)
    (success : (cast sqlType).render config = .write text) :
    ∃ front back, text.toList = front ++ back ∧ front ≠ [] ∧
      Delimited front ∧ (Mode.gap.run front).2.inDollar := by
  obtain ⟨valid, rfl⟩ := isValid_of_cast success
  obtain ⟨front, back, equal, run⟩ := run_type_of_looseDollar valid loose
  refine ⟨"::".toList ++ (front ++ ['$']), back, ?_, by simp, rfl, ?_⟩
  · rw [String.toList_append, equal]
    simp
  · have colons : Mode.gap.run "::".toList =
        ([.mark ':', .mark ':'], .gap) := completes_colons
    rw [Mode.run_append, colons, run]
    rfl

end Part

/-- The first element with a property, and what stands before it. -/
private theorem exists_first {α : Type} {property : α → Prop} {list : List α}
    (occurs : ∃ element ∈ list, property element) :
    ∃ before element after, list = before ++ element :: after ∧
      property element ∧ ∀ other ∈ before, ¬ property other := by
  induction list with
  | nil =>
      obtain ⟨_, member, _⟩ := occurs
      cases member
  | cons first rest induction =>
      by_cases own : property first
      · exact ⟨[], first, rest, rfl, own, by simp⟩
      · have later : ∃ element ∈ rest, property element := by
          obtain ⟨element, member, holds⟩ := occurs
          rcases List.mem_cons.mp member with rfl | member
          · exact absurd holds own
          · exact ⟨element, member, holds⟩
        obtain ⟨before, element, after, rfl, holds, none⟩ := induction later
        refine ⟨first :: before, element, after, rfl, holds, ?_⟩
        exact List.forall_mem_cons.mpr ⟨own, none⟩

namespace Config

variable {config : Config} {node : Node} {text : String}

private theorem isReadable_of_tight (builtin : config.BuiltinOnly)
    (raw : node.WithoutRaw) {part : Part} (member : part ∈ config.parts node)
    (tight : ∀ sqlType, part = .cast sqlType →
      ¬ HasLooseDollar (trim sqlType).toList) : part.IsReadable config := by
  rcases (phrase_of_builtinOnly builtin raw).isReadable_of_mem part member with
    ⟨sqlType, rfl⟩ | readable
  · refine Part.isReadable_of_exists fun text success => ?_
    obtain ⟨tokens, read, _⟩ :=
      Part.reads_tight_cast (tight sqlType rfl) success
    exact ⟨tokens, read⟩
  · exact readable

private theorem isClosed_of_tight (builtin : config.BuiltinOnly)
    (raw : node.WithoutRaw) (success : config.render node = .ok text)
    (tight : node.TypesTight) : IsClosed text := by
  rw [render_eq_ok_iff] at success
  have phrase := phrase_of_builtinOnly builtin raw
  have written := Rendering.part_eq_write success
  have tightCast (sqlType : String)
      (member : .cast sqlType ∈ config.parts node) :
      ¬ HasLooseDollar (trim sqlType).toList := by
    have datum := Rendering.mem_data_of_mem_parts
      (all_isLexical builtin raw) rfl member
    obtain ⟨value, inner⟩ := Node.mem_data_cast.mp datum
    exact tight value sqlType inner
  have read := Rendering.reads_ofParts phrase.isChain
    (fun part member => isReadable_of_tight builtin raw member
      fun sqlType equal => tightCast sqlType (equal ▸ member)) success
  refine (phrase.nests written fun sqlType member => ?_).isClosed read
  obtain ⟨own, ownWritten⟩ := written _ member
  obtain ⟨tokens, ownRead, nests⟩ :=
    Part.reads_tight_cast (tightCast sqlType member) ownWritten
  rw [Part.tokens_eq ownWritten ownRead]
  exact nests

/-- What is written before the first loose dollar is read as it should be, so
the dollar is met outside of any quote. -/
private theorem not_isClosed_of_loose (builtin : config.BuiltinOnly)
    (raw : node.WithoutRaw) (success : config.render node = .ok text)
    {value : Value} {sqlType : String}
    (member : .literal value (some sqlType) ∈ node.subnodes)
    (loose : HasLooseDollar (trim sqlType).toList) : ¬ IsClosed text := by
  rw [render_eq_ok_iff] at success
  have lexical := all_isLexical builtin raw
  have occurs : ∃ part ∈ config.parts node, ∃ sqlType, part = .cast sqlType ∧
      HasLooseDollar (trim sqlType).toList := by
    refine ⟨.cast sqlType, ?_, sqlType, rfl, loose⟩
    have datum := Node.mem_data_cast.mpr ⟨value, member⟩
    rw [← Rendering.filter_isDatum_parts lexical success] at datum
    exact (List.mem_filter.mp datum).1
  obtain ⟨before, _, after, equal, ⟨first, rfl, firstLoose⟩, none⟩ :=
    exists_first occurs
  have chain := (phrase_of_builtinOnly builtin raw).isChain
  rw [equal] at chain success
  rw [Rendering.ofParts_append] at success
  obtain ⟨front, rest, frontWritten, restWritten, rfl⟩ :=
    Rendering.append_eq_write success
  obtain ⟨own, last, ownWritten, _, rfl⟩ :=
    Rendering.append_eq_write restWritten
  have read := Rendering.reads_ofParts chain.left_of_append
    (fun part inside => isReadable_of_tight builtin raw
      (by rw [equal]; exact List.mem_append_left _ inside)
      fun other same otherLoose =>
        none part inside ⟨other, same, otherLoose⟩) frontWritten
  obtain ⟨opening, closing, split, nonempty, delimited, inDollar⟩ :=
    Part.run_loose_cast firstLoose ownWritten
  obtain ⟨done, mode, pending, run, pause, _⟩ := read
  have whole : (front ++ (own ++ last)).toList =
      (front.toList ++ opening) ++ (closing ++ last.toList) := by
    simp [split]
  refine not_isClosed_of_dollar whole ?_
  rw [Mode.run_append, run, Mode.run_of_delimited pause nonempty delimited]
  exact inDollar

/-- A rendering with ready-made operators alone is closed exactly if no type in
the tree has a loose dollar. -/
theorem isClosed_iff_typesTight (builtin : config.BuiltinOnly)
    (raw : node.WithoutRaw) (success : config.render node = .ok text) :
    IsClosed text ↔ node.TypesTight := by
  constructor
  · intro closed value sqlType member loose
    exact not_isClosed_of_loose builtin raw success member loose closed
  · exact isClosed_of_tight builtin raw success

/-- The type `int(1)$a$` passes its check, since its name is `int$a$`, and
leaves a dollar quote open. -/
theorem not_isClosed_of_dollar_type :
    postgres.render (.literal (.int 1) (some "int(1)$a$")) =
        .ok "1::int(1)$a$" ∧ ¬ IsClosed "1::int(1)$a$" := by
  have success : postgres.render (.literal (.int 1) (some "int(1)$a$")) =
      .ok "1::int(1)$a$" := by cbv
  have raw : (Node.literal (.int 1) (some "int(1)$a$")).WithoutRaw := by
    simp [Node.WithoutRaw]
  refine ⟨success, fun closed => ?_⟩
  have tight := (isClosed_iff_typesTight postgres_builtinOnly raw success).mp
    closed
  refine tight (.int 1) "int(1)$a$" List.mem_cons_self ?_
  exact ⟨"int(1)".toList, "a$".toList, by decide, "int(1".toList, [], rfl,
    by simp, by simp⟩

end Config

end SqlExpr
