import SqlExpr.Toml.Reader

/-!
# Putting TOML documents together

The statements of a text are entered one by one into a document.  No key is
defined twice: a header may open a table that was only passed through before,
a dotted key may add to tables that dotted keys made, and nothing adds to an
inline table.  A dotted key may also pass through a table that a header passed
through, and through the last table of several, on its way to one that dotted
keys made.
-/

namespace SqlExpr.Toml

namespace Members

/-- Put an item in the place of the one under a key, or behind all others. -/
def put (members : Members) (key : String) (item : Item) : Members :=
  match members with
  | [] => [(key, item)]
  | (other, old) :: rest =>
    if other = key then (key, item) :: rest
    else (other, old) :: put rest key item

/-- Enter an item under a dotted key. -/
def enter : List String → Item → Members → Option Members
  | [], _, _ => none
  | [key], item, members =>
    match members.lookup key with
    | some _ => none
    | none => some (members.put key item)
  | key :: next :: path, item, members =>
    match members.lookup key with
    | none => do
      let inner ← enter (next :: path) item []
      return members.put key (.table .dotted inner)
    | some (.table origin inner) =>
      if origin = .dotted ∨ (origin = .implied ∧ !path.isEmpty) then do
        let inner ← enter (next :: path) item inner
        return members.put key (.table origin inner)
      else
        none
    | some (.tables elements) =>
      match elements.getLast?, path with
      | some last, _ :: _ => do
        let last ← enter (next :: path) item last
        return members.put key (.tables (elements.dropLast ++ [last]))
      | _, _ => none
    | some _ => none

/-- Change the item at a header's path. -/
def changeAt (change : Option Item → Option Item) :
    List String → Members → Option Members
  | [], _ => none
  | [key], members => do
    return members.put key (← change (members.lookup key))
  | key :: next :: path, members =>
    match members.lookup key with
    | none => do
      let inner ← changeAt change (next :: path) []
      return members.put key (.table .implied inner)
    | some (.table origin inner) =>
      if origin = .inline then none
      else do
        let inner ← changeAt change (next :: path) inner
        return members.put key (.table origin inner)
    | some (.tables elements) =>
      match elements.getLast? with
      | some last => do
        let last ← changeAt change (next :: path) last
        return members.put key (.tables (elements.dropLast ++ [last]))
      | none => none
    | some _ => none

end Members

mutual

/-- The item that a written value stands for. -/
def Literal.item? : Literal → Option Item
  | .string text => some (.string text)
  | .scalar inRange => some (.scalar inRange)
  | .array items => (itemList? items).map .array
  | .table entries => (entryList? entries []).map (.table .inline)

def itemList? : List Literal → Option (List Item)
  | [] => some []
  | literal :: literals => do
    return (← literal.item?) :: (← itemList? literals)

/-- Enter the entries of an inline table one by one. -/
def entryList? : List (List String × Literal) → Members → Option Members
  | [], members => some members
  | (path, value) :: entries, members => do
    entryList? entries (← Members.enter path (← value.item?) members)

end

/-- Open a table by a header in brackets. -/
def openTable : Option Item → Option Item
  | none => some (.table .header [])
  | some (.table .implied members) => some (.table .header members)
  | some _ => none

/-- Open the next of several tables by a header in double brackets. -/
def openElement : Option Item → Option Item
  | none => some (.tables [[]])
  | some (.tables elements) => some (.tables (elements ++ [[]]))
  | some _ => none

/-- Add an entry to an opened table. -/
def enterInto (path : List String) (item : Item) : Option Item → Option Item
  | some (.table origin members) =>
    (Members.enter path item members).map (.table origin)
  | some (.tables elements) =>
    match elements.getLast? with
    | some last =>
      (Members.enter path item last).map fun last =>
        .tables (elements.dropLast ++ [last])
    | none => none
  | _ => none

/-- A document in the making, with the path of the table opened last. -/
structure Draft where
  root : Members := []
  opened : List String := []

/-- Enter one statement. -/
def Draft.step (draft : Draft) : Statement → Option Draft
  | .table path => do
    return ⟨← Members.changeAt openTable path draft.root, path⟩
  | .element path => do
    return ⟨← Members.changeAt openElement path draft.root, path⟩
  | .entry path value => do
    let item ← value.item?
    if draft.opened.isEmpty then
      return { draft with root := ← Members.enter path item draft.root }
    else
      return { draft with
        root := ← Members.changeAt (enterInto path item) draft.opened
          draft.root }

/-- The members of the document that a text describes. -/
def read? (text : String) : Option Members := do
  let statements ← readText text
  return (← statements.foldlM Draft.step {}).root

end SqlExpr.Toml
