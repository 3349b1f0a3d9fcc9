import ApiTypings.Toml.Scalar

/-!
# Reading TOML

Tables, arrays of tables and their entries. A key may be given once, a table may
be opened once, and what is written as an inline value cannot be extended.
-/

namespace ApiTypings
namespace Toml

/-- The entries of a table. -/
abbrev Table := List (String × Value)

/-- Change the table at a path, whose missing parts are created. In an array of
tables the last one is meant. -/
def changeAt (change : Table → Option Table) : List String → Table → Option Table
  | [], table => change table
  | key :: path, table =>
      match table.lookup key with
      | none => (changeAt change path []).map fun inner =>
          Entries.put table key (.mapping inner)
      | some (.mapping inner) => (changeAt change path inner).map fun changed =>
          Entries.put table key (.mapping changed)
      | some (.list items) =>
          match items.getLast? with
          | some (.mapping inner) => (changeAt change path inner).map fun changed =>
              Entries.put table key (.list (items.dropLast ++ [.mapping changed]))
          | _ => none
      | some _ => none

/-- Add an entry whose key is new. -/
def addEntry (key : String) (value : Value) (table : Table) : Option Table :=
  if (table.lookup key).isSome then none else some (Entries.put table key value)

/-- Add an empty table to an array of tables. -/
def addTable (key : String) (table : Table) : Option Table :=
  match table.lookup key with
  | none => some (Entries.put table key (.list [.mapping []]))
  | some (.list items) => some (Entries.put table key (.list (items ++ [.mapping []])))
  | some _ => none

/-- Whether one path starts with another. -/
def startsWithPath (path start : List String) : Bool :=
  path.take start.length == start

/-- Whether a value is a table or an array. -/
def isCollection : Value → Bool
  | .list _ => true
  | .mapping _ => true
  | _ => false

/-- A table under construction: its entries, and the paths that are closed. -/
structure Inline where
  entries : Table
  closed : List (List String)

/-- Add an entry to an inline table. -/
def Inline.add (inline : Inline) (path : List String) (value : Value) : Option Inline :=
  if inline.closed.any (startsWithPath path) then none
  else
    (changeAt (addEntry (path.getLast?.getD "") value) path.dropLast inline.entries).map
      fun entries =>
        ⟨entries, if isCollection value then path :: inline.closed else inline.closed⟩

/-- What is there, unless the text is malformed. -/
def require {α : Type} (found : Option α) : Except Fault α :=
  match found with
  | some value => .ok value
  | none => .error .malformed

mutual

/-- A value. -/
def readValue (fuel : Nat) (text : List Char) : Except Fault (Value × List Char) :=
  match fuel with
  | 0 => .error .malformed
  | fuel + 1 =>
      match text with
      | '"' :: _ | '\'' :: _ => do
          let (content, rest) ← require (string? text)
          return (.text content, rest)
      | '[' :: rest => do
          let start ← require (skipLines (rest.length + 1) rest)
          readItems fuel start []
      | '\x7b' :: rest => readEntries fuel (skipBlanks rest) true ⟨[], []⟩
      | _ =>
          if Text.startsWith "true".toList text then .ok (.bool true, text.drop 4)
          else if Text.startsWith "false".toList text then .ok (.bool false, text.drop 5)
          else do
            let (denoted, rest) ← require ((date? text).or (number? text))
            return (← denoted, rest)

/-- The items of an array; `read` holds those before in reverse. -/
def readItems (fuel : Nat) (text : List Char) (read : List Value) :
    Except Fault (Value × List Char) :=
  match fuel with
  | 0 => .error .malformed
  | fuel + 1 =>
      match text with
      | ']' :: rest => .ok (.list read.reverse, rest)
      | _ => do
          let (item, rest) ← readValue fuel text
          match skipLines (rest.length + 1) rest with
          | some (',' :: more) => do
              let next ← require (skipLines (more.length + 1) more)
              readItems fuel next (item :: read)
          | some (']' :: more) => .ok (.list (item :: read).reverse, more)
          | _ => .error .malformed

/-- The entries of an inline table, which may end at once only if it is empty. -/
def readEntries (fuel : Nat) (text : List Char) (mayEnd : Bool) (read : Inline) :
    Except Fault (Value × List Char) :=
  match fuel with
  | 0 => .error .malformed
  | fuel + 1 =>
      match mayEnd, text with
      | true, '\x7d' :: rest => .ok (.mapping read.entries, rest)
      | _, _ =>
          match key? (text.length + 1) text with
          | some (path, '=' :: rest) => do
              let (value, after) ← readValue fuel (skipBlanks rest)
              let added ← require (read.add path value)
              match skipBlanks after with
              | '\x7d' :: more => .ok (.mapping added.entries, more)
              | ',' :: more => readEntries fuel (skipBlanks more) false added
              | _ => .error .malformed
          | _ => .error .malformed

end

/-- A document under construction: its entries, the table that is open, the
tables that were opened, those that the entries of the open table imply, and the
paths that are closed. -/
structure Draft where
  root : Table := []
  header : List String := []
  opened : List (List String) := []
  pending : List (List String) := []
  closed : List (List String) := []

namespace Draft

/-- Whether a path cannot be extended. -/
def isClosed (draft : Draft) (path : List String) : Bool :=
  draft.closed.any (startsWithPath path)

/-- Implied tables count as opened once another table is opened. -/
def settle (draft : Draft) : Draft :=
  { draft with opened := draft.pending ++ draft.opened, pending := [] }

/-- Open a table. -/
def openTable (draft : Draft) (path : List String) : Option Draft :=
  if draft.opened.contains path || draft.isClosed path then none
  else
    (changeAt some path draft.root).map fun root =>
      { draft with root := root, header := path, opened := path :: draft.opened }

/-- Open the next table of an array. -/
def openItem (draft : Draft) (path : List String) : Option Draft :=
  if draft.isClosed path then none
  else
    (changeAt (addTable (path.getLast?.getD "")) path.dropLast draft.root).map fun root =>
      { draft with
        root := root
        header := path
        opened := path :: draft.opened.filter fun other => !startsWithPath other path
        closed := draft.closed.filter fun other => !startsWithPath other path }

/-- The tables that the parts of a key imply. -/
def implied (header : List String) (path : List String) : List (List String) :=
  (List.range (path.length - 1)).map fun n => header ++ path.take (n + 1)

/-- Add an entry to the table that is open. -/
def add (draft : Draft) (path : List String) (value : Value) : Option Draft :=
  let whole := draft.header ++ path
  let tables := implied draft.header path
  if tables.any draft.opened.contains || draft.isClosed whole.dropLast then none
  else
    (changeAt (addEntry (path.getLast?.getD "") value) whole.dropLast draft.root).map fun root =>
      { draft with
        root := root
        pending := tables ++ draft.pending
        closed := if isCollection value then whole :: draft.closed else draft.closed }

end Draft

/-- The header of a table or of an array of tables. -/
def header? (draft : Draft) (text : List Char) : Taken Draft :=
  match text with
  | '[' :: '[' :: rest =>
      match key? (rest.length + 1) (skipBlanks rest) with
      | some (path, ']' :: ']' :: after) => (draft.openItem path).map (·, after)
      | _ => none
  | '[' :: rest =>
      match key? (rest.length + 1) (skipBlanks rest) with
      | some (path, ']' :: after) => (draft.openTable path).map (·, after)
      | _ => none
  | _ => none

/-- An entry of the table that is open. -/
def readEntry (draft : Draft) (text : List Char) : Except Fault (Draft × List Char) :=
  match key? (text.length + 1) text with
  | some (path, '=' :: rest) => do
      let (value, after) ← readValue (rest.length + 1) (skipBlanks rest)
      let next ← require (draft.add path value)
      return (next, after)
  | _ => .error .malformed

/-- A line without its comment: nothing, a header or an entry. -/
def readStatement (draft : Draft) (text : List Char) : Except Fault (Draft × List Char) :=
  match text with
  | [] => .ok (draft, [])
  | '\n' :: _ => .ok (draft, text)
  | '#' :: _ => .ok (draft, text)
  | '[' :: _ => require (header? draft.settle text)
  | _ => readEntry draft text

/-- The lines of a document. -/
def readLines (fuel : Nat) (draft : Draft) (text : List Char) : Except Fault Table :=
  match fuel with
  | 0 => .error .malformed
  | fuel + 1 => do
      let (next, after) ← readStatement draft (skipBlanks text)
      match skipComment (skipBlanks after) with
      | some [] => .ok next.root
      | some ('\n' :: rest) => readLines fuel next rest
      | _ => .error .malformed

/-- The tables of a document. -/
def read (text : List Char) : Except Fault Value :=
  (readLines (text.length + 1) {} text).map .mapping

end Toml
end ApiTypings
