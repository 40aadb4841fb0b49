import SqlExpr.Name

/-!
# Tokens of SQL text

A scanner for the lexical rules of Postgres, as a machine that takes one
character at a time.  It is written against those rules and not against what
the renderer writes: it knows comments, dollar quotes and runs of operator
characters, none of which a rendering should open by accident.

Two choices make tokens a little coarser or finer than those of the server.  A
bare name goes on over dots, so that `a.b` is one word, and a parenthesis
directly behind a word is told from any other.
-/

namespace SqlExpr.Lexis

open SqlExpr.Name

/-- A token of SQL text. -/
inductive Token where
  /-- A keyword or a bare name, possibly with dots. -/
  | word (text : String)
  | number (text : String)
  /-- What stands between single quotes, with doubled quotes undone. -/
  | text (content : String)
  | name (content : String)
  | operator (symbol : String)
  /-- Any other character: a bracket, a comma, a point, a semicolon. -/
  | mark (symbol : Char)
  /-- An opening parenthesis directly behind a word. -/
  | call
  /-- A `$` that does not continue a word, with what follows it. -/
  | dollar (tag : String)
  | dollarText (tag content : String)
  | comment
  deriving DecidableEq, Repr

inductive Quote where
  | single
  | double
  deriving DecidableEq, Repr

namespace Quote

def mark : Quote → Char
  | single => '\''
  | double => '"'

def token : Quote → String → Token
  | single => .text
  | double => .name

end Quote

def isSpace (c : Char) : Bool :=
  c == ' ' || c == '\t' || c == '\n' || c == '\r' || c == '\x0b' || c == '\x0c'

/-- Letters, the underscore, and everything beyond ASCII. -/
def beginsWord (c : Char) : Bool := beginsName c || 0x80 ≤ c.toNat

/-- The operator characters that no operator of the standard has. -/
def isRareOperatorChar (c : Char) : Bool :=
  ['~', '!', '@', '#', '%', '^', '&', '|', '\x60', '?'].contains c

def isOperatorChar (c : Char) : Bool :=
  ['+', '-', '*', '/', '<', '>', '='].contains c || isRareOperatorChar c

def isSign (c : Char) : Bool := c == '+' || c == '-'

/-- Whether a character goes on a word.  A `$` right behind a point does not. -/
def continuesWord (read : List Char) (c : Char) : Bool :=
  beginsWord c || isAsciiDigit c || c == '.' ||
    (c == '$' && read.getLast? != some '.')

/-- A number takes in letters and points, so that no word begins inside of it. -/
def continuesNumber (c : Char) : Bool :=
  beginsWord c || isAsciiDigit c || c == '.'

/-- The operators in a run of operator characters.  A sign at its end is an
operator of its own, unless the run holds one of the rare characters. -/
def operatorTokens (run : List Char) : List Token :=
  if run.isEmpty then []
  else if run.any isRareOperatorChar then [.operator (String.ofList run)]
  else
    let signs := (run.reverse.takeWhile isSign).length
    let kept := max 1 (run.length - signs)
    .operator (String.ofList (run.take kept)) ::
      (run.drop kept).map fun sign => .operator (String.ofList [sign])

/-- Where the scanner stands, with what it has read of an unfinished token. -/
inductive Mode where
  | gap
  | word (read : List Char)
  | number (read : List Char)
  | operator (read : List Char)
  | quoted (quote : Quote) (read : List Char)
  /-- Behind a quote, which ends the quoted text or is the first of two. -/
  | quoteMark (quote : Quote) (read : List Char)
  | dollar (tag : List Char)
  | dollarText (tag read : List Char)
  | lineComment
  /-- Block comments nest. -/
  | blockComment (depth : Nat) (last : Char)
  /-- A quote directly behind a word, as in `E'…'`, gives a string other rules,
  and is not read any further. -/
  | refused
  deriving DecidableEq, Repr

def start (c : Char) : List Token × Mode :=
  if isSpace c then ([], .gap)
  else if beginsWord c then ([], .word [c])
  else if isAsciiDigit c then ([], .number [c])
  else if c == '\'' then ([], .quoted .single [])
  else if c == '"' then ([], .quoted .double [])
  else if c == '$' then ([], .dollar [])
  else if isOperatorChar c then ([], .operator [c])
  else ([.mark c], .gap)

/-- End the tokens read so far and begin another one. -/
def interrupt (tokens : List Token) (c : Char) : List Token × Mode :=
  (tokens ++ (start c).1, (start c).2)

namespace Mode

/-- Take one character: the tokens that it completes, and where the scanner
stands behind it. -/
def step : Mode → Char → List Token × Mode
  | gap, c => start c
  | word read, c =>
    if continuesWord read c then ([], word (read ++ [c]))
    else if c == '(' then ([.word (String.ofList read), .call], gap)
    else if c == '\'' then ([], refused)
    else interrupt [.word (String.ofList read)] c
  | number read, c =>
    if continuesNumber c then ([], number (read ++ [c]))
    else interrupt [.number (String.ofList read)] c
  | operator read, c =>
    if isOperatorChar c then
      if read.getLast? == some '-' && c == '-' then
        (operatorTokens read.dropLast ++ [.comment], lineComment)
      else if read.getLast? == some '/' && c == '*' then
        (operatorTokens read.dropLast ++ [.comment], blockComment 0 ' ')
      else ([], operator (read ++ [c]))
    else interrupt (operatorTokens read) c
  | quoted quote read, c =>
    if c == quote.mark then ([], quoteMark quote read)
    else ([], quoted quote (read ++ [c]))
  | quoteMark quote read, c =>
    if c == quote.mark then ([], quoted quote (read ++ [c]))
    else interrupt [quote.token (String.ofList read)] c
  | dollar tag, c =>
    if c == '$' && !tag.head?.any isAsciiDigit then ([], dollarText tag [])
    else if beginsWord c || isAsciiDigit c then ([], dollar (tag ++ [c]))
    else interrupt [.dollar (String.ofList tag)] c
  | dollarText tag read, c =>
    let read := read ++ [c]
    let close := '$' :: tag ++ ['$']
    if close.isSuffixOf read then
      ([.dollarText (String.ofList tag)
        (String.ofList (read.take (read.length - close.length)))], gap)
    else ([], dollarText tag read)
  | lineComment, c => if c == '\n' then ([], gap) else ([], lineComment)
  | blockComment depth last, c =>
    if last == '*' && c == '/' then
      match depth with
      | 0 => ([], gap)
      | depth + 1 => ([], blockComment depth ' ')
    else if last == '/' && c == '*' then ([], blockComment (depth + 1) ' ')
    else ([], blockComment depth c)
  | refused, _ => ([], refused)

/-- The tokens that end when the text pauses here; `none` where the scanner is
inside of something that has to be closed first. -/
def pending? : Mode → Option (List Token)
  | gap => some []
  | word read => some [.word (String.ofList read)]
  | number read => some [.number (String.ofList read)]
  | operator read => some (operatorTokens read)
  | quoteMark quote read => some [quote.token (String.ofList read)]
  | dollar tag => some [.dollar (String.ofList tag)]
  | _ => none

/-- The tokens that end with the text. -/
def finish? : Mode → Option (List Token)
  | lineComment => some []
  | mode => mode.pending?

def run (mode : Mode) : List Char → List Token × Mode
  | [] => ([], mode)
  | c :: rest =>
    ((mode.step c).1 ++ (run (mode.step c).2 rest).1,
      (run (mode.step c).2 rest).2)

end Mode

def scanChars (text : List Char) : Option (List Token) :=
  (Mode.gap.run text).2.finish?.map ((Mode.gap.run text).1 ++ ·)

/-- The tokens of a text; `none` if it ends within a quote or a comment. -/
def scan (text : String) : Option (List Token) := scanChars text.toList

example :
    scan "a = 'it''s' -- done" =
      some [.word "a", .operator "=", .text "it's", .comment] := by
  decide

example : scan "f(1, \"x\"::int[2])" =
    some [.word "f", .call, .number "1", .mark ',', .name "x", .mark ':',
      .mark ':', .word "int", .mark '[', .number "2", .mark ']', .mark ')'] := by
  decide

example : scan "1 $a$ 'x' $a$" =
    some [.number "1", .dollarText "a" " 'x' "] := by
  decide

example : scan "'open" = none := by decide

end SqlExpr.Lexis
