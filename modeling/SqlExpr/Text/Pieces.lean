import SqlExpr.Text.CharacterSets

/-!
# Cutting, joining and trimming

A text is cut at chosen characters into the pieces between them, and pieces
are joined again around a separator.  What stands around a text without being
part of it are the blanks, and these can be taken away.
-/

namespace SqlExpr.Text

/-- The pieces between the characters that satisfy `cut`.  A text with `n` such
characters has `n + 1` pieces, some of which may be empty. -/
def piecesWhere (cut : Char → Bool) : List Char → List (List Char)
  | [] => [[]]
  | c :: rest =>
    match piecesWhere cut rest with
    | [] => []
    | piece :: pieces =>
      if cut c then [] :: piece :: pieces else (c :: piece) :: pieces

/-- The pieces of a text between the occurrences of one character. -/
def pieces (separator : Char) (text : String) : List String :=
  (piecesWhere (· == separator) text.toList).map String.ofList

/-- Pieces written one after the other with a separator between neighbours. -/
def joinWith (separator : String) : List String → String
  | [] => ""
  | [piece] => piece
  | piece :: rest => piece ++ separator ++ joinWith separator rest

/-- A text without the blanks that begin it. -/
def trimLeft (text : List Char) : List Char := text.dropWhile isBlank

/-- A text without the blanks that end it. -/
def trimRight (text : List Char) : List Char :=
  (text.reverse.dropWhile isBlank).reverse

/-- A text without the blanks around it. -/
def trim (text : String) : String :=
  String.ofList (trimRight (trimLeft text.toList))

/-- Whether a text has no character that can be seen. -/
def isBlankText (text : String) : Bool := text.toList.all isBlank

end SqlExpr.Text
