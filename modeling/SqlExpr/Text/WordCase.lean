import SqlExpr.Text.CharacterSets
import SqlExpr.Text.LetterCase
import SqlExpr.Text.Pieces

/-!
# Names as words

A name such as `HTTPServer` or `published_at` is a sequence of words.  A word
ends where a character is neither letter nor digit, between a lower and an
upper case letter, and before the last of several upper case letters when a
lower case letter follows.  `snakeCase` writes the words in lower case joined
by underscores, `shoutyCase` in upper case.
-/

namespace SqlExpr.Text

/-- The case of the letters read last in the current word. -/
inductive WordMode where
  | start
  | lower
  | upper
  deriving DecidableEq, Repr

/-- The mode after a character; digits and uncased letters keep it. -/
def WordMode.after (mode : WordMode) (c : Char) : WordMode :=
  if isLowercase c then .lower
  else if isUppercase c then .upper
  else mode

/-- Cut a run of letters and digits into words.  `word` is the current word in
reverse. -/
def cutWords (mode : WordMode) (word : List Char) :
    List Char → List (List Char)
  | [] => if word.isEmpty then [] else [word.reverse]
  | [c] => [(c :: word).reverse]
  | c :: next :: rest =>
    if mode.after c = .lower ∧ isUppercase next then
      (c :: word).reverse :: cutWords .start [] (next :: rest)
    else if mode = .upper ∧ isUppercase c ∧ isLowercase next then
      word.reverse :: cutWords .start [c] (next :: rest)
    else
      cutWords (mode.after c) (c :: word) (next :: rest)

/-- The words of a name. -/
def nameWords (name : String) : List (List Char) :=
  (piecesWhere (fun c => !isAlphanumeric c) name.toList).flatMap
    (cutWords .start [])

/-- A word in lower case; a sigma that ends it has its final form. -/
def lowercaseWord : List Char → List Char
  | [] => []
  | ['Σ'] => ['ς']
  | c :: rest => lowercase c ++ lowercaseWord rest

/-- A word in upper case. -/
def uppercaseWord (word : List Char) : List Char := word.flatMap uppercase

/-- The words of a name in lower case, joined by underscores. -/
def snakeCase (name : String) : String :=
  joinWith "_" ((nameWords name).map (String.ofList ∘ lowercaseWord))

/-- The words of a name in upper case, joined by underscores. -/
def shoutyCase (name : String) : String :=
  joinWith "_" ((nameWords name).map (String.ofList ∘ uppercaseWord))

end SqlExpr.Text
