import ApiTypings.Yaml.Lexeme

/-!
# Tokens

A document as a list of tokens, in which the structure of blocks is explicit. A
block begins where an entry or a key is indented more than the block around it,
and it ends where the indentation drops. A key is known to be one only when its
colon is found, on the same line and not too far away; the tokens that announce
it are then put before it.
-/

namespace ApiTypings
namespace Yaml

/-- What a document says about its own notation. -/
inductive Directive
  | version (major : Nat)
  | handle (name start : String)
  | other
  deriving DecidableEq, Repr

/-- The tokens of a document. -/
inductive Token
  | directive (directive : Directive)
  | documentStart
  | documentEnd
  | blockSequence
  | blockMapping
  | blockEnd
  | openSequence
  | closeSequence
  | openMapping
  | closeMapping
  | blockEntry
  | flowEntry
  | key
  | value
  | alias (name : String)
  | anchor (name : String)
  | tag (tag : Tag)
  | scalar (content : String) (isPlain : Bool)
  deriving DecidableEq, Repr

/-- A place that a key may have started at. -/
structure PossibleKey where
  /-- How many tokens there are before it. -/
  before : Nat
  /-- Whether nothing but a key can stand there. -/
  required : Bool
  place : Cursor

/-- The tokens that were read, and what is known at a place. -/
structure Scan where
  cursor : Cursor
  /-- The tokens before the place, the latest first. -/
  tokens : List Token := []
  /-- How many tokens there are. -/
  count : Nat := 0
  /-- How many flow collections are open. -/
  flow : Nat := 0
  /-- The indentation of the innermost block, and those of the blocks around it. -/
  indent : Int := -1
  indents : List Int := []
  /-- Whether a key may start here. -/
  mayStartKey : Bool := true
  /-- The possible keys by the number of open flow collections. -/
  keys : List (Nat × PossibleKey) := []

namespace Scan

/-- The farthest that the colon of a key may be from its start. -/
def keyReach : Nat := 1024

/-- Whether the place is in a flow collection. -/
def inFlow (scan : Scan) : Bool :=
  scan.flow != 0

/-- Add a token. -/
def push (scan : Scan) (token : Token) : Scan :=
  { scan with tokens := token :: scan.tokens, count := scan.count + 1 }

/-- Put a token after the given number of tokens. -/
def insert (scan : Scan) (before : Nat) (token : Token) : Scan :=
  let later := scan.count - before
  { scan with
    tokens := scan.tokens.take later ++ token :: scan.tokens.drop later
    count := scan.count + 1 }

/-- Move on. -/
def moveTo (scan : Scan) (cursor : Cursor) : Scan :=
  { scan with cursor := cursor }

/-- Whether a possible key is out of reach. -/
def isStale (scan : Scan) (key : PossibleKey) : Bool :=
  key.place.line != scan.cursor.line || keyReach < scan.cursor.index - key.place.index

/-- Forget the possible keys that are out of reach. -/
def dropStale (scan : Scan) : Except Fault Scan :=
  if scan.keys.any fun entry => scan.isStale entry.2 && entry.2.required then .error .malformed
  else .ok { scan with keys := scan.keys.filter fun entry => !scan.isStale entry.2 }

/-- Forget the possible key of the innermost collection. -/
def dropKey (scan : Scan) : Except Fault Scan :=
  match scan.keys.lookup scan.flow with
  | some key =>
      if key.required then .error .malformed
      else .ok { scan with keys := scan.keys.filter fun entry => entry.1 != scan.flow }
  | none => .ok scan

/-- Remember that a key may start here. -/
def noteKey (scan : Scan) : Except Fault Scan :=
  if scan.mayStartKey then
    (scan.dropKey).map fun scan =>
      let required := !scan.inFlow && scan.indent == scan.cursor.column
      { scan with keys := (scan.flow, ⟨scan.count, required, scan.cursor⟩) :: scan.keys }
  else .ok scan

/-- End the blocks that are indented more than a column. -/
def unwindFrom (column : Int) (indents : List Int) (scan : Scan) : Scan :=
  if column < scan.indent then
    match indents with
    | outer :: rest =>
        unwindFrom column rest ({ scan with indent := outer, indents := rest }.push .blockEnd)
    | [] => { scan with indent := column }
  else scan

/-- End the blocks that are indented more than a column, outside flow
collections. -/
def unwind (scan : Scan) (column : Int) : Scan :=
  if scan.inFlow then scan else unwindFrom column scan.indents scan

/-- Begin a block at a column, unless there is one. -/
def begin? (scan : Scan) (column : Nat) : Option Scan :=
  if scan.indent < column then
    some { scan with indent := column, indents := scan.indent :: scan.indents }
  else none

/-- Begin a block at the place, unless there is one. -/
def beginBlock (scan : Scan) (token : Token) : Scan :=
  match scan.begin? scan.cursor.column with
  | some begun => begun.push token
  | none => scan

/-- Skip blanks, comments and line breaks. After a line break a key may start. -/
def toNextFrom (fuel : Nat) (scan : Scan) : Scan :=
  match fuel with
  | 0 => scan
  | fuel + 1 =>
      let here := scan.cursor.skipBlanks.skipComment
      match here.lineBreak? with
      | none => scan.moveTo here
      | some (_, after) =>
          toNextFrom fuel { scan with
            cursor := after
            mayStartKey := scan.mayStartKey || !scan.inFlow }

/-- Skip what stands before the next token, a byte order mark at the start
included. -/
def toNext (scan : Scan) : Scan :=
  let start :=
    if scan.cursor.index == 0 && scan.cursor.head? == some (Char.ofNat 0xFEFF) then
      scan.cursor.next
    else scan.cursor
  toNextFrom (start.left + 1) (scan.moveTo start)

/-- A token of some characters, after which a key may start or not. -/
def mark (scan : Scan) (token : Token) (length : Nat) (mayStartKey : Bool) : Scan :=
  let pushed := scan.push token
  { pushed with cursor := pushed.cursor.skip length, mayStartKey := mayStartKey }

/-- The start or the end of a document. -/
def documentMark (scan : Scan) (token : Token) : Except Fault Scan :=
  ((scan.unwind (-1)).dropKey).map fun scan => scan.mark token 3 false

/-- The opening of a flow collection, which may be a key. -/
def openFlow (scan : Scan) (token : Token) : Except Fault Scan :=
  (scan.noteKey).map fun scan => { scan with flow := scan.flow + 1 }.mark token 1 true

/-- The closing of a flow collection. -/
def closeFlow (scan : Scan) (token : Token) : Except Fault Scan :=
  (scan.dropKey).map fun scan => { scan with flow := scan.flow - 1 }.mark token 1 false

/-- The comma between the entries of a flow collection. -/
def flowEntry (scan : Scan) : Except Fault Scan :=
  (scan.dropKey).map fun scan => scan.mark .flowEntry 1 true

/-- The dash before an entry of a sequence. -/
def blockEntry (scan : Scan) : Except Fault Scan :=
  if scan.inFlow then (scan.dropKey).map fun scan => scan.mark .blockEntry 1 true
  else if !scan.mayStartKey then .error .malformed
  else ((scan.beginBlock .blockSequence).dropKey).map fun scan => scan.mark .blockEntry 1 true

/-- The question mark before a key. -/
def explicitKey (scan : Scan) : Except Fault Scan :=
  if scan.inFlow then (scan.dropKey).map fun scan => scan.mark .key 1 false
  else if !scan.mayStartKey then .error .malformed
  else ((scan.beginBlock .blockMapping).dropKey).map fun scan => scan.mark .key 1 true

/-- The colon after a key that was noted. -/
def colonOf (scan : Scan) (key : PossibleKey) : Scan :=
  let known := { scan with keys := scan.keys.filter fun entry => entry.1 != scan.flow }
  let announced := known.insert key.before .key
  let begun :=
    if announced.inFlow then announced
    else
      match announced.begin? key.place.column with
      | some begun => begun.insert key.before .blockMapping
      | none => announced
  begun.mark .value 1 false

/-- The colon before a value. -/
def colon (scan : Scan) : Except Fault Scan :=
  match scan.keys.lookup scan.flow with
  | some key => .ok (scan.colonOf key)
  | none =>
      if scan.inFlow then (scan.dropKey).map fun scan => scan.mark .value 1 false
      else if !scan.mayStartKey then .error .malformed
      else ((scan.beginBlock .blockMapping).dropKey).map fun scan => scan.mark .value 1 true

/-- A lexeme that may be a key or stand before one. -/
def lexeme (scan : Scan) (read : Cursor → Reading Token) : Except Fault Scan := do
  let noted ← scan.noteKey
  let (token, after) ← read noted.cursor
  return { noted.push token with cursor := after, mayStartKey := false }

/-- A plain scalar. -/
def plainScalar (scan : Scan) : Except Fault Scan :=
  (scan.noteKey).map fun noted =>
    let (text, crossed, after) := plain noted.inFlow (noted.indent + 1) noted.cursor
    { noted.push (.scalar (String.ofList text) true) with
      cursor := after
      mayStartKey := crossed }

/-- A quoted scalar. -/
def quotedScalar (scan : Scan) (mark : Char) : Except Fault Scan :=
  scan.lexeme fun cursor => (quoted mark cursor).map fun (text, after) =>
    (.scalar (String.ofList text) false, after)

/-- A block scalar. -/
def blockScalar (scan : Scan) (fold : Bool) : Except Fault Scan := do
  let dropped ← scan.dropKey
  let (text, after) ← block fold dropped.indent dropped.cursor
  return { dropped.push (.scalar (String.ofList text) false) with
    cursor := after
    mayStartKey := true }

/-- Digits, at least one. -/
def digits (cursor : Cursor) : Reading Nat :=
  let (taken, after) := cursor.span Char.isDigit
  if taken.isEmpty then .error .malformed else .ok (Decimal.ofDigits 10 taken, after)

/-- The version that a directive gives. -/
def versionDirective (cursor : Cursor) : Except Fault (Directive × Cursor) := do
  let (major, after) ← digits cursor.skipBlanks
  if after.head? != some '.' then throw .malformed
  let (_, last) ← digits after.next
  if last.wordEnds then return (.version major, last) else throw .malformed

/-- The handle that a directive defines. -/
def handleDirective (cursor : Cursor) : Except Fault (Directive × Cursor) := do
  let (handle, after) ← tagHandle cursor.skipBlanks
  if after.head? != some ' ' then throw .malformed
  let (address, last) ← tagAddress after.skipBlanks
  if last.wordEnds then return (.handle handle address, last) else throw .malformed

/-- A directive with the end of its line. -/
def directive (scan : Scan) : Except Fault Scan := do
  let dropped ← (scan.unwind (-1)).dropKey
  let (name, after) := dropped.cursor.next.span isNameChar
  if name.isEmpty || !after.wordEnds then throw .malformed
  let (found, last) ←
    match String.ofList name with
    | "YAML" => versionDirective after
    | "TAG" => handleDirective after
    | _ => .ok (.other, after.skipWhile fun c => !isBreak c)
  let ending := last.skipBlanks.skipComment
  if !ending.lineEnds then throw .malformed
  return { dropped.push (.directive found) with
    cursor := ((ending.lineBreak?).map Prod.snd).getD ending
    mayStartKey := false }

/-- Whether a plain scalar can start with a character, before the given one. -/
def startsPlain (flow : Bool) (c : Char) (gapFollows : Bool) : Bool :=
  !(isGap c || "-?:,[]\x7b\x7d#&*!|>'\"%@`".toList.contains c) ||
    (!gapFollows && (c == '-' || (!flow && (c == '?' || c == ':'))))

/-- Read the token that starts with a character. -/
def token (scan : Scan) (c : Char) : Except Fault Scan :=
  let cursor := scan.cursor
  let atStart := cursor.column == 0
  let gapFollows := cursor.gapAt 1
  let marked := scan.inFlow || gapFollows
  if c == '%' && atStart then scan.directive
  else if atStart && cursor.marks "---" then scan.documentMark .documentStart
  else if atStart && cursor.marks "..." then scan.documentMark .documentEnd
  else
    match c with
    | '[' => scan.openFlow .openSequence
    | '\x7b' => scan.openFlow .openMapping
    | ']' => scan.closeFlow .closeSequence
    | '\x7d' => scan.closeFlow .closeMapping
    | ',' => scan.flowEntry
    | '*' => scan.lexeme fun cursor => (name cursor).map fun (name, after) => (.alias name, after)
    | '&' => scan.lexeme fun cursor => (name cursor).map fun (name, after) => (.anchor name, after)
    | '!' => scan.lexeme fun cursor => (tag cursor).map fun (tag, after) => (.tag tag, after)
    | '\'' => scan.quotedScalar '\''
    | '"' => scan.quotedScalar '"'
    | _ =>
        if c == '-' && gapFollows then scan.blockEntry
        else if c == '?' && marked then scan.explicitKey
        else if c == ':' && marked then scan.colon
        else if c == '|' && !scan.inFlow then scan.blockScalar false
        else if c == '>' && !scan.inFlow then scan.blockScalar true
        else if startsPlain scan.inFlow c gapFollows then scan.plainScalar
        else .error .malformed

/-- Read all tokens. Every token takes at least one character. -/
def run (fuel : Nat) (scan : Scan) : Except Fault Scan :=
  match fuel with
  | 0 => .error .malformed
  | fuel + 1 =>
      match scan.toNext.dropStale with
      | .error fault => .error fault
      | .ok ready =>
          let here := ready.unwind ready.cursor.column
          match here.cursor.head? with
          | none => (here.unwind (-1)).dropKey
          | some c =>
              match here.token c with
              | .error fault => .error fault
              | .ok next => run fuel next

end Scan

/-- The tokens of a text. -/
def tokens (text : List Char) : Except Fault (List Token) :=
  if text.all isPrintable then
    ({ cursor := .ofText text : Scan }.run (text.length + 2)).map fun scan =>
      scan.tokens.reverse
  else .error .malformed

end Yaml
end ApiTypings
