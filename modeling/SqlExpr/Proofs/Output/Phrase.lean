import Mathlib.Data.List.Chain
import SqlExpr.Proofs.Lexis.Nesting
import SqlExpr.Proofs.Node.Subnodes
import SqlExpr.Proofs.Output.Atom

/-!
# Phrases

The parts of a node follow each other in a few ways only: a joint such as
` AND ` stands between two phrases, a head or a bracket is closed behind one, a
cast or ` IS NULL` comes last.  `Phrase` is the grammar of these ways.  In a
phrase no token goes over from one part into the next, so a rendering is read
as the tokens of its parts.

Registered operators enter the grammar if they are infix operators whose
symbols can be read on their own, or the arrays of the ready-made extensions.
-/

namespace SqlExpr

open SqlExpr.Lexis SqlExpr.Name SqlExpr.Text

namespace Part

def tokens (config : Config) (part : Part) : List Token :=
  (scan (part.render config).text).getD []

/-- A part behind which nothing is pending. -/
def IsComplete : Part → Prop
  | verbatim text => ∃ tokens, Completes text.toList tokens
  | head _ | fail _ => True
  | _ => False

/-- A part before which everything ends. -/
def IsDelimited : Part → Prop
  | verbatim text => text ≠ "" ∧ Delimited text.toList
  | cast _ | fail _ => True
  | _ => False

/-- No token goes over from the first part into the second one. -/
def Separates (first second : Part) : Prop :=
  first.IsComplete ∨ second.IsDelimited

/-- A part that opens a bracket and waits for it to be closed. -/
def Opens (closer : Char) : Part → Prop
  | verbatim text =>
    ∃ tokens, Completes text.toList tokens ∧ Nests [] [closer] tokens
  | head _ => closer = ')'
  | _ => False

/-- A part that stands for itself wherever nothing is pending. -/
def IsAtom : Part → Prop
  | verbatim text => ∃ tokens, Reads text.toList tokens ∧ Nests [] [] tokens
  | reference .. | label _ | value _ | constant _ => True
  | _ => False

/-- A part that can be read by itself when it succeeds. -/
def IsReadable (config : Config) (part : Part) : Prop :=
  ∀ text, part.render config = .write text →
    Reads text.toList (part.tokens config)

end Part

/-- A text that stands between two phrases. -/
structure IsJoint (text : String) : Prop where
  nonempty : text ≠ ""
  delimited : Delimited text.toList
  complete : ∃ tokens, Completes text.toList tokens ∧ Nests [] [] tokens

/-- A text that ends a phrase and takes the brackets awaited from `before` to
none. -/
structure IsEnding (before : List Char) (text : String) : Prop where
  nonempty : text ≠ ""
  delimited : Delimited text.toList
  readable : ∃ tokens, Reads text.toList tokens ∧ Nests before [] tokens

/-- The parts of a node; `attached` if they can stand directly behind a
phrase. -/
inductive Phrase : (attached : Bool) → List Part → Prop where
  | nil {attached : Bool} : Phrase attached []
  | atom (part : Part) (isAtom : part.IsAtom) : Phrase false [part]
  | cast (sqlType : String) : Phrase true [.cast sqlType]
  | ending (text : String) (isEnding : IsEnding [] text) :
      Phrase true [.verbatim text]
  | joined (text : String) {parts : List Part} (isJoint : IsJoint text)
      (phrase : Phrase false parts) : Phrase true (.verbatim text :: parts)
  | leading (text : String) {parts : List Part}
      (complete : ∃ tokens, Completes text.toList tokens ∧ Nests [] [] tokens)
      (phrase : Phrase false parts) : Phrase false (.verbatim text :: parts)
  | enclosed (closer : Char) {opening : Part} {parts : List Part}
      {closing : String} (opens : opening.Opens closer)
      (closes : IsEnding [closer] closing) (phrase : Phrase false parts) :
      Phrase false (opening :: (parts ++ [.verbatim closing]))
  | failing (error : ExprError) {attached inner : Bool} {parts : List Part}
      (phrase : Phrase inner parts) : Phrase attached (.fail error :: parts)
  | append {attached : Bool} {first second : List Part}
      (phrase : Phrase attached first) (next : Phrase true second) :
      Phrase attached (first ++ second)

namespace Phrase

theorem head_delimited {parts : List Part} (phrase : Phrase true parts) :
    ∀ first ∈ parts.head?, first.IsDelimited := by
  generalize attached : true = flag at phrase
  induction phrase with
  | nil => simp
  | cast sqlType => simp [Part.IsDelimited]
  | ending text isEnding =>
      simpa [Part.IsDelimited] using
        And.intro isEnding.nonempty isEnding.delimited
  | joined text isJoint =>
      simpa [Part.IsDelimited] using
        And.intro isJoint.nonempty isJoint.delimited
  | failing error => simp [Part.IsDelimited]
  | atom | leading | enclosed => cases attached
  | @append attached first second phrase next induction nextInduction =>
      cases first with
      | nil => exact nextInduction rfl
      | cons part parts => exact induction attached

theorem isComplete_of_opens {closer : Char} {part : Part}
    (opens : part.Opens closer) : part.IsComplete := by
  cases part with
  | verbatim text =>
      obtain ⟨tokens, complete, _⟩ := opens
      exact ⟨tokens, complete⟩
  | head function => trivial
  | _ => cases opens

/-- In a phrase, every part is separated from the next one. -/
theorem isChain {attached : Bool} {parts : List Part}
    (phrase : Phrase attached parts) : parts.IsChain Part.Separates := by
  induction phrase with
  | nil => exact .nil
  | atom | cast | ending => exact .singleton _
  | joined text isJoint _ induction =>
      obtain ⟨tokens, complete, _⟩ := isJoint.complete
      exact induction.cons fun _ _ => .inl ⟨tokens, complete⟩
  | leading text complete _ induction =>
      obtain ⟨tokens, complete, _⟩ := complete
      exact induction.cons fun _ _ => .inl ⟨tokens, complete⟩
  | enclosed closer opens closes _ induction =>
      refine List.IsChain.cons ?_ fun _ _ => .inl (isComplete_of_opens opens)
      refine induction.append (.singleton _) fun _ _ last member => .inr ?_
      cases Option.mem_some.mp member
      exact And.intro closes.nonempty closes.delimited
  | failing error _ induction => exact induction.cons fun _ _ => .inl trivial
  | append _ next induction nextInduction =>
      exact induction.append nextInduction fun _ _ part member =>
        .inr (next.head_delimited part member)

end Phrase

/-! ## Reading the parts -/

namespace Part

variable {config : Config} {part : Part} {text : String}

theorem tokens_eq {tokens : List Token}
    (success : part.render config = .write text)
    (read : Reads text.toList tokens) : part.tokens config = tokens := by
  have written : (part.render config).text = text := by
    rw [success]
    rfl
  simp only [Part.tokens, scan, written, read.scanChars_eq, Option.getD_some]

theorem isReadable_of_exists
    (read : ∀ text, part.render config = .write text →
      ∃ tokens, Reads text.toList tokens) : part.IsReadable config := by
  intro text success
  obtain ⟨tokens, reads⟩ := read text success
  rw [tokens_eq success reads]
  exact reads

theorem completes_head {function : String}
    (success : (head function).render config = .write text) :
    Completes text.toList [.word function, .call] := by
  obtain ⟨before, after, checked, written, rfl⟩ :=
    Rendering.append_eq_write success
  obtain ⟨valid, rfl⟩ := Rendering.ofCheck_eq_write checked
  cases written
  have word : isWord ['.'] function := by
    unfold Node.checkFunctionName at valid
    split at valid
    · cases valid
    · split at valid
      · next word => exact word
      · cases valid
  have bracket : (Mode.word function.toList).step '(' =
      ([.word function, .call], .gap) := by
    have ends : continuesWord function.toList '(' = false := rfl
    simp only [Mode.step, ends, String.ofList_toList]
    rfl
  unfold Completes
  rw [String.empty_append, String.toList_append, Mode.run_append,
    run_isWord word]
  exact congrArg (fun read => (read.1 ++ [], read.2)) bracket

theorem reads_cast {sqlType : String}
    (success : (cast sqlType).render config = .write text) :
    TypeName.check sqlType = .ok () ∧ text = "::" ++ trim sqlType := by
  obtain ⟨before, after, checked, written, rfl⟩ :=
    Rendering.append_eq_write success
  obtain ⟨valid, rfl⟩ := Rendering.ofCheck_eq_write checked
  cases written
  exact ⟨valid, String.empty_append⟩

end Part

theorem IsLiteral.nests {tokens : List Token} (literal : IsLiteral tokens) :
    Nests [] [] tokens := by
  apply Nests.ofPlain
  cases literal <;> simp [Token.isPlain, Token.awaits?, Token.isCloser,
    Token.isHazard]

theorem IsReference.nests {tokens : List Token}
    (reference : IsReference tokens) : Nests [] [] tokens := by
  apply Nests.ofPlain
  induction reference with
  | name content =>
      simp [Token.isPlain, Token.awaits?, Token.isCloser, Token.isHazard]
  | qualified content rest _ induction =>
      simpa [Token.isPlain, Token.awaits?, Token.isCloser, Token.isHazard]
        using induction

namespace Part

variable {config : Config} {part : Part} {text : String}

theorem IsAtom.reads (isAtom : part.IsAtom)
    (success : part.render config = .write text) :
    ∃ tokens, Reads text.toList tokens ∧ Nests [] [] tokens := by
  cases part with
  | verbatim fixed =>
      cases success
      exact isAtom
  | reference table? name =>
      obtain ⟨tokens, read, reference⟩ := config.reads_column success
      exact ⟨tokens, read, reference.nests⟩
  | label name =>
      have written := Rendering.ofResult_eq_write success
      refine ⟨[.name name], ?_, (IsReference.name name).nests⟩
      exact reads_identifier written
  | value held | constant held =>
      obtain ⟨tokens, read, literal⟩ :=
        Value.reads_literal (Rendering.ofResult_eq_write success)
      exact ⟨tokens, read, literal.nests⟩
  | cast sqlType | head function | fail error => cases isAtom

theorem completes_of_isComplete (complete : part.IsComplete)
    (success : part.render config = .write text) :
    Completes text.toList (part.tokens config) := by
  have exactly {tokens : List Token}
      (read : Completes text.toList tokens) :
      Completes text.toList (part.tokens config) := by
    rw [tokens_eq success read.reads]
    exact read
  cases part with
  | verbatim fixed =>
      cases success
      obtain ⟨tokens, read⟩ := complete
      exact exactly read
  | head function => exact exactly (completes_head success)
  | fail error => cases success
  | _ => cases complete

end Part

namespace Rendering

variable {config : Config} {parts : List Part} {text : String}

theorem part_eq_write (success : ofParts config parts = write text) :
    ∀ part ∈ parts, ∃ own, part.render config = write own := by
  induction parts generalizing text with
  | nil => simp
  | cons part parts induction =>
      obtain ⟨before, after, first, rest, _⟩ := append_eq_write success
      intro other member
      rcases List.mem_cons.mp member with rfl | member
      · exact ⟨before, first⟩
      · exact induction rest other member

theorem delimited_ofParts
    (delimited : ∀ first ∈ parts.head?, first.IsDelimited)
    (success : ofParts config parts = write text) :
    Delimited text.toList := by
  cases parts with
  | nil =>
      cases success
      rfl
  | cons part parts =>
      obtain ⟨before, after, first, _, rfl⟩ := append_eq_write success
      have front : before ≠ "" ∧ Delimited before.toList := by
        have own := delimited part rfl
        cases part with
        | verbatim fixed =>
            cases first
            exact own
        | cast sqlType =>
            obtain ⟨_, rfl⟩ := Part.reads_cast first
            refine ⟨fun empty => ?_, by simp [Delimited, isDelimiter]⟩
            have characters := congrArg String.toList empty
            simp at characters
        | fail error => cases first
        | _ => cases own
      rw [String.toList_append]
      exact front.2.append (by simpa using front.1) _

/-- Separated parts are read one by one. -/
theorem reads_ofParts (chain : parts.IsChain Part.Separates)
    (readable : ∀ part ∈ parts, part.IsReadable config)
    (success : ofParts config parts = write text) :
    Reads text.toList (parts.flatMap (Part.tokens config)) := by
  induction parts generalizing text with
  | nil =>
      cases success
      exact .nil
  | cons part parts induction =>
      obtain ⟨before, after, first, rest, rfl⟩ := append_eq_write success
      have next := induction chain.tail
        (fun other member => readable other (List.mem_cons_of_mem _ member))
        rest
      have own := readable part List.mem_cons_self before first
      rw [String.toList_append, List.flatMap_cons]
      by_cases complete : part.IsComplete
      · exact (Part.completes_of_isComplete complete first).append_reads next
      · refine own.append ?_ next
        refine delimited_ofParts (fun head member => ?_) rest
        exact (chain.rel_head? member).resolve_left complete

end Rendering

namespace Phrase

variable {attached : Bool} {parts : List Part} {config : Config}

theorem isReadable_of_mem (phrase : Phrase attached parts) :
    ∀ part ∈ parts,
      (∃ sqlType, part = .cast sqlType) ∨ part.IsReadable config := by
  have verbatim {text : String}
      (read : ∃ tokens, Reads text.toList tokens) :
      (Part.verbatim text).IsReadable config :=
    Part.isReadable_of_exists fun own success => by
      cases success
      exact read
  induction phrase with
  | nil => simp
  | atom part isAtom =>
      intro other member
      cases List.mem_singleton.mp member
      refine .inr (Part.isReadable_of_exists fun text success => ?_)
      obtain ⟨tokens, read, _⟩ := isAtom.reads success
      exact ⟨tokens, read⟩
  | cast sqlType =>
      intro other member
      exact .inl ⟨sqlType, List.mem_singleton.mp member⟩
  | ending text isEnding =>
      intro other member
      cases List.mem_singleton.mp member
      obtain ⟨tokens, read, _⟩ := isEnding.readable
      exact .inr (verbatim ⟨tokens, read⟩)
  | joined text isJoint _ induction =>
      obtain ⟨tokens, complete, _⟩ := isJoint.complete
      exact List.forall_mem_cons.mpr
        ⟨.inr (verbatim ⟨tokens, complete.reads⟩), induction⟩
  | leading text complete _ induction =>
      obtain ⟨tokens, complete, _⟩ := complete
      exact List.forall_mem_cons.mpr
        ⟨.inr (verbatim ⟨tokens, complete.reads⟩), induction⟩
  | enclosed closer opens closes _ induction =>
      obtain ⟨tokens, read, _⟩ := closes.readable
      refine List.forall_mem_cons.mpr ⟨.inr ?_, ?_⟩
      · refine Part.isReadable_of_exists fun text success => ?_
        exact ⟨_, (Part.completes_of_isComplete
          (isComplete_of_opens opens) success).reads⟩
      · refine List.forall_mem_append.mpr ⟨induction, ?_⟩
        intro other member
        cases List.mem_singleton.mp member
        exact .inr (verbatim ⟨tokens, read⟩)
  | failing error _ induction =>
      refine List.forall_mem_cons.mpr ⟨.inr ?_, induction⟩
      intro text success
      cases success
  | append _ _ induction nextInduction =>
      exact List.forall_mem_append.mpr ⟨induction, nextInduction⟩

/-- A rendering without casts is read as the tokens of its parts. -/
theorem reads {text : String} (phrase : Phrase attached parts)
    (uncast : ∀ sqlType, .cast sqlType ∉ parts)
    (success : Rendering.ofParts config parts = .write text) :
    Reads text.toList (parts.flatMap (Part.tokens config)) := by
  refine Rendering.reads_ofParts phrase.isChain (fun part member => ?_) success
  rcases phrase.isReadable_of_mem part member with ⟨sqlType, rfl⟩ | readable
  · exact absurd member (uncast sqlType)
  · exact readable

private theorem nests_verbatim {before after : List Char} {text : String}
    (read : ∃ tokens, Reads text.toList tokens ∧ Nests before after tokens) :
    Nests before after ((Part.verbatim text).tokens config) := by
  obtain ⟨tokens, reads, nests⟩ := read
  have written : (Part.verbatim text).render config = .write text := rfl
  rw [Part.tokens_eq written reads]
  exact nests

private theorem nests_complete {text : String}
    (complete : ∃ tokens, Completes text.toList tokens ∧ Nests [] [] tokens) :
    Nests [] [] ((Part.verbatim text).tokens config) := by
  obtain ⟨tokens, complete, nests⟩ := complete
  exact nests_verbatim ⟨tokens, complete.reads, nests⟩

private theorem nests_opening {closer : Char} {opening : Part} {text : String}
    (opens : opening.Opens closer)
    (success : opening.render config = .write text) :
    Nests [] [closer] (opening.tokens config) := by
  cases opening with
  | verbatim fixed =>
      obtain ⟨tokens, complete, nests⟩ := opens
      exact nests_verbatim ⟨tokens, complete.reads, nests⟩
  | head function =>
      cases opens
      rw [Part.tokens_eq success (Part.completes_head success).reads]
      exact ⟨by simp [Token.isHazard], fun outer => rfl⟩
  | _ => cases opens

/-- The brackets of a phrase are balanced if those in its casts are. -/
theorem nests (phrase : Phrase attached parts)
    (success : ∀ part ∈ parts, ∃ text, part.render config = .write text)
    (casts : ∀ sqlType, .cast sqlType ∈ parts →
      Nests [] [] ((Part.cast sqlType).tokens config)) :
    Nests [] [] (parts.flatMap (Part.tokens config)) := by
  induction phrase with
  | nil => exact .nil
  | atom part isAtom =>
      obtain ⟨text, written⟩ := success part List.mem_cons_self
      obtain ⟨tokens, read, nests⟩ := isAtom.reads written
      simpa [Part.tokens_eq written read] using nests
  | cast sqlType => simpa using casts sqlType List.mem_cons_self
  | ending text isEnding =>
      rw [List.flatMap_singleton]
      exact nests_verbatim isEnding.readable
  | joined text isJoint _ induction =>
      rw [List.forall_mem_cons] at success
      exact (nests_complete isJoint.complete).append
        (induction success.2 fun sqlType member =>
          casts sqlType (List.mem_cons_of_mem _ member))
  | leading text complete _ induction =>
      rw [List.forall_mem_cons] at success
      exact (nests_complete complete).append
        (induction success.2 fun sqlType member =>
          casts sqlType (List.mem_cons_of_mem _ member))
  | enclosed closer opens closes _ induction =>
      rw [List.forall_mem_cons, List.forall_mem_append] at success
      obtain ⟨⟨text, written⟩, inner, _⟩ := success
      have body := induction inner fun sqlType member =>
        casts sqlType (by simp [member])
      simpa using (nests_opening opens written).enclosed body
        (nests_verbatim closes.readable)
  | failing error _ _ =>
      obtain ⟨text, written⟩ := success _ List.mem_cons_self
      cases written
  | append _ _ induction nextInduction =>
      rw [List.forall_mem_append] at success
      rw [List.flatMap_append]
      exact (induction success.1 fun sqlType member =>
        casts sqlType (List.mem_append_left _ member)).append
        (nextInduction success.2 fun sqlType member =>
          casts sqlType (List.mem_append_right _ member))

end Phrase

end SqlExpr
