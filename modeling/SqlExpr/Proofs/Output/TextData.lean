import SqlExpr.Node.Predicate
import SqlExpr.Proofs.Node.Texts
import SqlExpr.Proofs.Output.Alike
import SqlExpr.Proofs.Output.Data

/-!
# Texts are data

Two trees that differ in the contents of text literals only are written alike:
either both renderings fail with one error, or the tokens of both are those of
one pattern, in whose gaps stand the contents of the literals, each as one
token.
-/

namespace SqlExpr

open SqlExpr.Lexis SqlExpr.Text

namespace Part

/-- A part without the content of its text, if it is the value of a literal. -/
def eraseText : Part → Part
  | value held => value held.eraseText
  | part => part

def texts : Part → List String
  | value (.text content) => [content]
  | _ => []

/-- The tokens of a part, with a gap for a text literal. -/
def pattern (config : Config) : Part → List (Option Token)
  | value (.text _) => [none]
  | part => (part.tokens config).map some

end Part

/-- The tokens of a pattern, with the contents in its gaps as string tokens. -/
def fill : List (Option Token) → List String → List Token
  | some token :: pattern, contents => token :: fill pattern contents
  | none :: pattern, content :: contents =>
    .text content :: fill pattern contents
  | _, _ => []

/-- How many contents a pattern has room for. -/
def gaps (pattern : List (Option Token)) : Nat := pattern.count none

/-! ## Erasing before and after -/

namespace Config

/-- The parts of a tree without its texts stand beside the parts of the
tree. -/
theorem pairing_eraseText (config : Config) :
    config.Pairing config Value.eraseText fun part own =>
      part = own.eraseText where
  isNull value := by cases value <;> rfl
  value _ := rfl
  fixed part fixed := by
    cases part with
    | value => cases fixed
    | _ => rfl
  constant _ _ := rfl
  templates := .inl rfl

theorem map_eraseText_partsAt (config : Config) (position : Position)
    (node : Node) :
    (config.partsAt position node).map Part.eraseText =
      config.partsAt position node.eraseTexts := by
  have parts := config.pairing_eraseText.partsAt_mapValues position node
    fun _ _ _ _ => rfl
  rw [← List.forall₂_map_right_iff, List.forall₂_eq_eq_eq] at parts
  rw [Node.eraseTexts_eq_mapValues, parts]

end Config

/-! ## Contents and gaps -/

theorem fill_append {pattern more : List (Option Token)}
    {contents others : List String}
    (room : gaps pattern = contents.length) :
    fill (pattern ++ more) (contents ++ others) =
      fill pattern contents ++ fill more others := by
  induction pattern generalizing contents with
  | nil =>
      cases contents with
      | nil => rfl
      | cons content contents => cases room
  | cons first pattern induction =>
      cases first with
      | some token =>
          have rest : gaps pattern = contents.length := by
            simpa [gaps] using room
          simp [fill, induction rest]
      | none =>
          cases contents with
          | nil => simp [gaps] at room
          | cons content contents =>
              have rest : gaps pattern = contents.length := by
                simpa [gaps] using room
              simp [fill, induction rest]

private theorem fill_map_some (tokens : List Token) :
    fill (tokens.map some) [] = tokens := by
  induction tokens with
  | nil => rfl
  | cons token tokens induction => simp [fill, induction]

private theorem gaps_map_some (tokens : List Token) :
    gaps (tokens.map some) = 0 := by
  simp [gaps, List.count_eq_zero]

namespace Part

variable {config : Config} {part : Part}

theorem eq_value_text {content : String} (member : content ∈ part.texts) :
    part = .value (.text content) := by
  cases part with
  | value held =>
      cases held with
      | text own => rw [List.mem_singleton.mp member]
      | _ => cases member
  | _ => cases member

theorem pattern_eraseText : part.eraseText.pattern config =
    part.pattern config := by
  cases part with
  | value held => cases held <;> rfl
  | _ => rfl

theorem gaps_pattern : gaps (part.pattern config) = part.texts.length := by
  cases part with
  | value held =>
      cases held with
      | text content => rfl
      | _ => exact gaps_map_some _
  | _ => exact gaps_map_some _

theorem tokens_eq_fill {text : String}
    (success : part.render config = .write text) :
    part.tokens config = fill (part.pattern config) part.texts := by
  cases part with
  | value held =>
      cases held with
      | text content =>
          have written : writeText "" content = .write text :=
            (Value.ofResult_literal _ _).symm.trans success
          exact tokens_eq success (reads_writeText written)
      | _ => exact (fill_map_some _).symm
  | _ => exact (fill_map_some _).symm

end Part

section Sequences

variable {config : Config} {parts : List Part}

private theorem gaps_flatMap :
    gaps (parts.flatMap (Part.pattern config)) =
      (parts.flatMap Part.texts).length := by
  induction parts with
  | nil => rfl
  | cons part parts induction =>
      have own : gaps (part.pattern config) = part.texts.length :=
        Part.gaps_pattern
      simp only [gaps, List.flatMap_cons, List.count_append,
        List.length_append] at induction own ⊢
      rw [induction, own]

private theorem tokens_eq_fill {text : String}
    (success : Rendering.ofParts config parts = .write text) :
    parts.flatMap (Part.tokens config) =
      fill (parts.flatMap (Part.pattern config))
        (parts.flatMap Part.texts) := by
  induction parts generalizing text with
  | nil => rfl
  | cons part parts induction =>
      obtain ⟨before, after, first, rest, _⟩ :=
        Rendering.append_eq_write success
      simp only [List.flatMap_cons]
      rw [fill_append Part.gaps_pattern, induction rest,
        Part.tokens_eq_fill first]

private theorem flatMap_pattern_map_eraseText :
    (parts.map Part.eraseText).flatMap (Part.pattern config) =
      parts.flatMap (Part.pattern config) := by
  induction parts with
  | nil => rfl
  | cons part parts induction =>
      simp only [List.map_cons, List.flatMap_cons, induction,
        Part.pattern_eraseText]

private theorem error_map_eraseText
    (allowed : ∀ part ∈ parts, ∀ content ∈ part.texts, !hasNul content) :
    (Rendering.ofParts config (parts.map Part.eraseText)).error? =
      (Rendering.ofParts config parts).error? := by
  have append (first second : Rendering) :
      (first ++ second).error? = first.error?.or second.error? := by
    obtain ⟨text, _ | error⟩ := first <;> rfl
  induction parts with
  | nil => rfl
  | cons part parts induction =>
      rw [List.forall_mem_cons] at allowed
      have own : (part.eraseText.render config).error? =
          (part.render config).error? := by
        cases part with
        | value held =>
            simp only [Part.eraseText, Part.render, Value.error?_literal]
            cases held with
            | text content =>
                have free := allowed.1 content List.mem_cons_self
                have blank : hasNul "" = false := rfl
                rw [Bool.not_eq_true'] at free
                simp only [Value.eraseText, Value.fault?, free, blank]
            | _ => rfl
        | _ => rfl
      simp only [List.map_cons, Rendering.ofParts_cons, append, own,
        induction allowed.2]

private theorem texts_filter_isDatum :
    (parts.filter Part.isDatum).flatMap Part.texts =
      parts.flatMap Part.texts := by
  induction parts with
  | nil => rfl
  | cons part parts induction =>
      cases datum : part.isDatum with
      | true => simp [datum, induction]
      | false =>
          have none : part.texts = [] := by
            cases part with
            | value held => cases held <;> first | rfl | cases datum
            | _ => rfl
          simp [datum, induction, none]

end Sequences

theorem Node.flatMap_texts_data (node : Node) :
    node.data.flatMap Part.texts = node.texts := by
  have own : (fun inner : Node => inner.ownData.flatMap Part.texts) =
      ownTexts := by
    funext inner
    cases inner with
    | literal value sqlType? =>
        cases value <;> cases sqlType? <;> rfl
    | _ => rfl
  rw [data, texts, List.flatMap_assoc, own]

/-! ## Two runs -/

namespace Config

variable {config : Config} {node : Node}

def pattern (config : Config) (node : Node) : List (Option Token) :=
  (config.parts node).flatMap (Part.pattern config)

theorem pattern_eraseTexts :
    config.pattern node.eraseTexts = config.pattern node := by
  unfold pattern parts
  rw [← map_eraseText_partsAt, flatMap_pattern_map_eraseText]

/-- A tree without casts has the tokens of its pattern. -/
theorem scan_eq_fill (builtin : config.BuiltinOnly) (raw : node.WithoutRaw)
    (types : node.WithoutTypes) {text : String}
    (success : config.render node = .ok text) :
    scan text = some (fill (config.pattern node) node.texts) ∧
      gaps (config.pattern node) = node.texts.length := by
  rw [render_eq_ok_iff] at success
  have lexical := all_isLexical builtin raw
  have uncast : ∀ sqlType, .cast sqlType ∉ config.parts node := by
    intro sqlType member
    have datum := Rendering.mem_data_of_mem_parts lexical rfl member
    obtain ⟨value, inner⟩ := Node.mem_data_cast.mp datum
    exact types _ inner value sqlType rfl
  have contents : (config.parts node).flatMap Part.texts = node.texts := by
    rw [← texts_filter_isDatum,
      Rendering.filter_isDatum_parts lexical success,
      Node.flatMap_texts_data]
  have read := (phrase_of_builtinOnly builtin raw).reads uncast success
  rw [scan, read.scanChars_eq, tokens_eq_fill success, contents]
  exact ⟨rfl, by rw [pattern, gaps_flatMap, contents]⟩

/-- Whether a rendering fails, and how, does not depend on its texts. -/
theorem error_eraseTexts (builtin : config.BuiltinOnly)
    (raw : node.WithoutRaw)
    (free : ∀ content ∈ node.texts, !hasNul content) :
    (Rendering.ofParts config (config.parts node.eraseTexts)).error? =
      (Rendering.ofParts config (config.parts node)).error? := by
  have lexical := all_isLexical builtin raw
  unfold parts
  rw [← map_eraseText_partsAt]
  refine error_map_eraseText fun part member content own => ?_
  cases Part.eq_value_text own
  have datum := Rendering.mem_data_of_mem_parts lexical rfl member
  refine free content ?_
  rw [← Node.flatMap_texts_data]
  exact List.mem_flatMap.mpr ⟨_, datum, List.mem_singleton_self content⟩

/-- Two trees without SQL text of their own and without casts that differ in
the contents of text literals only are both refused with one error, or have
the same tokens but for the string tokens that these literals are read as. -/
theorem tokens_of_same_erasure (builtin : config.BuiltinOnly)
    {first second : Node}
    (firstRaw : first.WithoutRaw) (secondRaw : second.WithoutRaw)
    (firstTypes : first.WithoutTypes) (secondTypes : second.WithoutTypes)
    (firstFree : ∀ content ∈ first.texts, !hasNul content)
    (secondFree : ∀ content ∈ second.texts, !hasNul content)
    (same : first.eraseTexts = second.eraseTexts) :
    (∃ error, config.render first = .error error ∧
        config.render second = .error error) ∨
      ∃ firstText secondText pattern,
        config.render first = .ok firstText ∧
        config.render second = .ok secondText ∧
        gaps pattern = first.texts.length ∧
        gaps pattern = second.texts.length ∧
        scan firstText = some (fill pattern first.texts) ∧
        scan secondText = some (fill pattern second.texts) := by
  have errors :
      (Rendering.ofParts config (config.parts first)).error? =
        (Rendering.ofParts config (config.parts second)).error? := by
    rw [← error_eraseTexts builtin firstRaw firstFree, same,
      error_eraseTexts builtin secondRaw secondFree]
  have shared : config.pattern first = config.pattern second := by
    rw [← pattern_eraseTexts, same, pattern_eraseTexts]
  cases firstResult : config.render first with
  | error error =>
      left
      refine ⟨error, rfl, ?_⟩
      rw [render_eq_ofParts, Rendering.result] at firstResult ⊢
      rw [← errors]
      split at firstResult
      · exact firstResult
      · cases firstResult
  | ok firstText =>
      right
      obtain ⟨secondText, secondResult⟩ :
          ∃ text, config.render second = .ok text := by
        rw [render_eq_ofParts, Rendering.result] at firstResult ⊢
        rw [← errors]
        split at firstResult
        · cases firstResult
        · exact ⟨_, rfl⟩
      obtain ⟨firstScan, firstRoom⟩ :=
        scan_eq_fill builtin firstRaw firstTypes firstResult
      obtain ⟨secondScan, secondRoom⟩ :=
        scan_eq_fill builtin secondRaw secondTypes secondResult
      rw [← shared] at secondScan secondRoom
      exact ⟨firstText, secondText, _, rfl, secondResult, firstRoom,
        secondRoom, firstScan, secondScan⟩

/-- A quote and a comment in a text stay inside of its token. -/
theorem tokens_of_same_erasure_quote :
    ∃ pattern, gaps pattern = 1 ∧
      scan "\"a\" = 'x'" = some (fill pattern ["x"]) ∧
      scan "\"a\" = '''; --'" = some (fill pattern ["'; --"]) := by
  have same :
      (Node.eq (.column none "a") (.text "x")).eraseTexts =
        (Node.eq (.column none "a") (.text "'; --")).eraseTexts := rfl
  have first : postgres.render (.eq (.column none "a") (.text "x")) =
      .ok "\"a\" = 'x'" := rfl
  have second : postgres.render (.eq (.column none "a") (.text "'; --")) =
      .ok "\"a\" = '''; --'" := rfl
  have raw (content : String) :
      (Node.eq (.column none "a") (.text content)).WithoutRaw := by
    simp [Node.WithoutRaw, Node.eq, Node.text, Node.ofValue]
  have types (content : String) :
      (Node.eq (.column none "a") (.text content)).WithoutTypes := by
    simp [Node.WithoutTypes, Node.eq, Node.text, Node.ofValue]
  rcases tokens_of_same_erasure postgres_builtinOnly (raw "x") (raw "'; --")
      (types "x") (types "'; --") (by decide) (by decide) same with
    ⟨error, failed, _⟩ |
      ⟨_, _, pattern, left, right, room, _, leftScan, rightScan⟩
  · rw [first] at failed
    cases failed
  · rw [first] at left
    rw [second] at right
    cases left
    cases right
    exact ⟨pattern, room, leftScan, rightScan⟩

end Config

end SqlExpr
