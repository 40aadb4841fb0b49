import SqlExpr.Proofs.Lexis.Quoted
import SqlExpr.Proofs.Value.Literal

/-!
# Texts and documents as literals

A text is written behind what a buffer holds as one quoted token, from which it
can be read back whatever stands before and behind it, unless a quote directly
follows.  A text with a NUL character is refused and leaves the buffer as it
was.  A document is written as its own text, which is never refused.
-/

namespace SqlExpr

open SqlExpr.Lexis SqlExpr.Text

/-- The token is one quoted text, from which the content can be read back
before anything that does not begin with a quote. -/
def IsTextToken (token content : String) : Prop :=
  ∀ rest : String, rest.toList.head? ≠ some '\'' →
    Quote.single.read? (token ++ rest).toList = some (content, rest.toList) ∧
      scan (token ++ rest) = (scan rest).map (Token.text content :: ·)

theorem isTextToken_quoted (text : String) :
    IsTextToken (quoted '\'' text) text := by
  intro rest next
  have read := Quote.single.read?_quoted next text
  rw [String.toList_append]
  refine ⟨read, ?_⟩
  rw [scan, scan, String.toList_append]
  exact Quote.scanChars_of_read? read

namespace Value

/-- Texts are refused exactly for a NUL character, with nothing written, and
documents never; else one token is written, and the content is what is read
from it. -/
theorem writeTo_isTextToken (style : BooleanStyle) (buffer : String) :
    (∀ text : String,
      ('\x00' ∈ text.toList →
        writeTo style buffer (.text text) = ⟨buffer, some .nulInText⟩) ∧
      ('\x00' ∉ text.toList → ∃ token,
        writeTo style buffer (.text text) = .write (buffer ++ token) ∧
          IsTextToken token text)) ∧
    ∀ document : Json, ∃ token,
      writeTo style buffer (.json document) = .write (buffer ++ token) ∧
        IsTextToken token document.text := by
  constructor
  · intro text
    constructor
    · intro nul
      exact writeText_of_nul (hasNul_iff.mpr nul) buffer
    · intro clean
      refine ⟨quoted '\'' text, ?_, isTextToken_quoted text⟩
      exact writeText_of_clean (hasNul_eq_false_iff.mpr clean) buffer
  · intro document
    have clean := (Json.withoutControls_text document).hasNul_eq_false
    refine ⟨quoted '\'' document.text, ?_, isTextToken_quoted document.text⟩
    exact writeText_of_clean clean buffer

/-- A text that ends with two quotes, in front of a comma. -/
theorem writeTo_isTextToken_quotes :
    '\x00' ∉ "it's''".toList ∧
      writeTo .keyword "f(" (.text "it's''") = .write "f('it''s'''''" ∧
      ", 1)".toList.head? ≠ some '\'' ∧
      Quote.single.read? "'it''s''''', 1)".toList =
        some ("it's''", ", 1)".toList) := by
  have clean : '\x00' ∉ "it's''".toList := by decide
  have next : ", 1)".toList.head? ≠ some '\'' := by decide
  obtain ⟨token, written, isToken⟩ :=
    ((writeTo_isTextToken .keyword "f(").1 "it's''").2 clean
  have whole : writeTo .keyword "f(" (.text "it's''") =
      .write ("f(" ++ "'it''s'''''") := rfl
  have same : token = "'it''s'''''" := by
    have texts := Rendering.write_injective (written.symm.trans whole)
    exact (String.append_right_inj _).mp texts
  subst same
  exact ⟨clean, whole, next, (isToken ", 1)" next).1⟩

end Value

end SqlExpr
