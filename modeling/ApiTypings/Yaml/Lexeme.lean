import ApiTypings.Text.Half
import ApiTypings.Text.Utf8
import ApiTypings.Yaml.Cursor
import ApiTypings.Yaml.Scalar

/-!
# Lexemes

The parts of a document that are not structure: plain, quoted and block scalars
with their line folding, names of anchors, and tags. A reader takes what it reads
off a place and returns the place after it. Readers that loop are given fuel; the
length of the text is always enough.
-/

namespace ApiTypings
namespace Yaml

/-- What was read, and the place after it. -/
abbrev Reading (α : Type) := Except Fault (α × Cursor)

/-- Line breaks inside a scalar: a single line feed reads as a blank, further
breaks as themselves. -/
def folded (mark : Char) (more : List Char) : List Char :=
  if mark != '\n' then mark :: more else if more.isEmpty then [' '] else more

/-! ## Plain scalars -/

/-- The characters that end a plain scalar in a flow collection. -/
def endsFlowWord (c : Char) : Bool :=
  ",?[]\x7b\x7d".toList.contains c

/-- Whether a colon before the given text ends a plain scalar. -/
def colonEnds (flow : Bool) : List Char → Bool
  | [] => true
  | c :: _ => isGap c || (flow && ",[]\x7b\x7d".toList.contains c)

/-- The word of a plain scalar that starts a text. -/
def plainWord (flow : Bool) : List Char → List Char
  | [] => []
  | c :: rest =>
      if isGap c || (c == ':' && colonEnds flow rest) || (flow && endsFlowWord c) then []
      else c :: plainWord flow rest

/-- The line breaks after the first one between the words of a plain scalar, or
nothing where a document is marked. -/
def plainBreaks (fuel : Nat) (read : List Char) (cursor : Cursor) :
    Option (List Char) × Cursor :=
  match fuel with
  | 0 => (some read, cursor)
  | fuel + 1 =>
      let here := cursor.skipBlanks
      match here.lineBreak? with
      | none => (some read, here)
      | some (mark, after) =>
          if after.marksDocument then (none, after)
          else plainBreaks fuel (read ++ [mark]) after

/-- What stands between two words of a plain scalar. -/
structure PlainGap where
  /-- How the gap reads in the scalar; nothing if the scalar ends. -/
  text : List Char
  cursor : Cursor
  /-- Whether there is a line break in the gap. -/
  crossed : Bool

/-- What stands after a word of a plain scalar. -/
def plainGap (cursor : Cursor) : PlainGap :=
  let (blanks, after) := cursor.span (· == ' ')
  match after.lineBreak? with
  | none => ⟨blanks, after, false⟩
  | some (mark, start) =>
      if start.marksDocument then ⟨[], start, true⟩
      else
        match plainBreaks (start.left + 1) [] start with
        | (some more, last) => ⟨folded mark more, last, true⟩
        | (none, last) => ⟨[], last, true⟩

/-- A plain scalar with what was read of it before, which is reversed; its lines
are indented. The flag tells whether the place after it starts a line. -/
def plainFrom
    (flow : Bool)
    (indent : Int)
    (fuel : Nat)
    (read : List Char)
    (gap : PlainGap) :
    List Char × Bool × Cursor :=
  match fuel with
  | 0 => (read.reverse, gap.crossed, gap.cursor)
  | fuel + 1 =>
      let word := if gap.cursor.head? == some '#' then [] else plainWord flow gap.cursor.rest
      if word.isEmpty then (read.reverse, gap.crossed, gap.cursor)
      else
        let next := plainGap (gap.cursor.skip word.length)
        let text := word.reverse ++ gap.text.reverse ++ read
        if next.text.isEmpty || next.cursor.head? == some '#' ||
            (!flow && (next.cursor.column : Int) < indent) then
          (text.reverse, next.crossed, next.cursor)
        else plainFrom flow indent fuel text next

/-- A plain scalar. -/
def plain (flow : Bool) (indent : Int) (cursor : Cursor) : List Char × Bool × Cursor :=
  plainFrom flow indent (cursor.left + 1) [] ⟨[], cursor, false⟩

/-! ## Quoted scalars -/

/-- The line breaks after the first one inside quotes. -/
def quotedBreaks (fuel : Nat) (read : List Char) (cursor : Cursor) : Reading (List Char) :=
  match fuel with
  | 0 => .error .malformed
  | fuel + 1 =>
      if cursor.marksDocument then .error .malformed
      else
        let here := cursor.skipWhile isSpace
        match here.lineBreak? with
        | none => .ok (read, here)
        | some (mark, after) => quotedBreaks fuel (read ++ [mark]) after

/-- The character of an escape of one letter. -/
def escaped? : Char → Option Char
  | '0' => some '\x00'
  | 'a' => some '\x07'
  | 'b' => some '\x08'
  | 't' => some '\t'
  | '\t' => some '\t'
  | 'n' => some '\n'
  | 'v' => some '\x0b'
  | 'f' => some '\x0c'
  | 'r' => some '\r'
  | 'e' => some '\x1b'
  | ' ' => some ' '
  | '"' => some '"'
  | '\\' => some '\\'
  | '/' => some '/'
  | 'N' => some (Char.ofNat 0x85)
  | '_' => some (Char.ofNat 0xA0)
  | 'L' => some (Char.ofNat 0x2028)
  | 'P' => some (Char.ofNat 0x2029)
  | _ => none

/-- How many hexadecimal digits follow the letter of an escape. -/
def escapeLength? : Char → Option Nat
  | 'x' => some 2
  | 'u' => some 4
  | 'U' => some 8
  | _ => none

/-- The code point of a number of hexadecimal digits. -/
def escapedCode (count : Nat) (cursor : Cursor) : Reading Nat :=
  let digits := cursor.rest.take count
  if digits.length < count || !digits.all Text.isHexDigit then .error .malformed
  else
    let code := Decimal.ofDigits 16 digits
    if 0x110000 ≤ code then .error (.impossible "chr() arg not in range(0x110000)")
    else .ok (code, cursor.skip count)

/-- What stands for an escape in double quotes, after its backslash. -/
def escape (cursor : Cursor) : Reading (List Char) :=
  match cursor.head? with
  | none => .error .malformed
  | some c =>
      match escaped? c, escapeLength? c, cursor.lineBreak? with
      | some char, _, _ => .ok ([char], cursor.next)
      | none, some count, _ =>
          (escapedCode count cursor.next).map fun (code, after) => (Text.ofCode code, after)
      | none, none, some (_, after) => quotedBreaks (after.left + 1) [] after
      | none, none, none => .error .malformed

/-- What blanks and line breaks inside quotes stand for. -/
def quotedGap (cursor : Cursor) : Reading (List Char) :=
  let (blanks, after) := cursor.span isSpace
  match after.lineBreak? with
  | none => .ok (blanks, after)
  | some (mark, start) =>
      (quotedBreaks (start.left + 1) [] start).map fun (more, last) =>
        (folded mark more, last)

/-- A quoted scalar after its opening quote; `read` is reversed. -/
def quotedFrom (mark : Char) (fuel : Nat) (read : List Char) (cursor : Cursor) :
    Reading (List Char) :=
  match fuel, cursor.rest with
  | 0, _ => .error .malformed
  | _ + 1, [] => .error .malformed
  | fuel + 1, c :: rest =>
      if c == mark then
        if mark == '\'' && rest.head? == some '\'' then
          quotedFrom mark fuel ('\'' :: read) (cursor.skip 2)
        else .ok (read.reverse, cursor.next)
      else if c == '\\' && mark == '"' then
        match escape cursor.next with
        | .error fault => .error fault
        | .ok (text, after) => quotedFrom mark fuel (text.reverse ++ read) after
      else if isGap c then
        match quotedGap cursor with
        | .error fault => .error fault
        | .ok (text, after) => quotedFrom mark fuel (text.reverse ++ read) after
      else quotedFrom mark fuel (c :: read) cursor.next

/-- A quoted scalar. -/
def quoted (mark : Char) (cursor : Cursor) : Reading (List Char) :=
  quotedFrom mark (cursor.left + 1) [] cursor.next

/-! ## Block scalars -/

/-- Which of the line breaks at the end of a block belong to it. -/
inductive Chomping
  | none
  | one
  | all
  deriving DecidableEq, Repr

/-- The indicators of a block: its chomping, and its indentation if given. -/
structure BlockHeader where
  chomping : Chomping := .one
  indentation : Option Nat := none

/-- The chomping of an indicator. -/
def chomping? : Char → Option Chomping
  | '+' => some .all
  | '-' => some .none
  | _ => none

/-- The indentation of an indicator. -/
def indentation? (c : Char) : Option Nat :=
  if c.isDigit then some (c.toNat - '0'.toNat) else none

/-- The indicators at the start of a text, in either order, and how many
characters they take. -/
def blockIndicators : List Char → BlockHeader × Nat
  | a :: rest =>
      let second := rest.head?
      match chomping? a, indentation? a with
      | some chomping, _ =>
          match second.bind indentation? with
          | some indentation => (⟨chomping, some indentation⟩, 2)
          | none => (⟨chomping, none⟩, 1)
      | none, some indentation =>
          match second.bind chomping? with
          | some chomping => (⟨chomping, some indentation⟩, 2)
          | none => (⟨.one, some indentation⟩, 1)
      | none, none => ({}, 0)
  | [] => ({}, 0)

/-- The header of a block up to the end of its line. -/
def blockHeader (cursor : Cursor) : Reading BlockHeader :=
  let (header, length) := blockIndicators cursor.rest
  let after := cursor.skip length
  if header.indentation == some 0 || !after.wordEnds then .error .malformed
  else
    let last := after.skipBlanks.skipComment
    if !last.lineEnds then .error .malformed
    else .ok (header, ((last.lineBreak?).map Prod.snd).getD last)

/-- Skip blanks before a column. -/
def skipIndent (indent : Nat) (cursor : Cursor) : Cursor :=
  let blanks := (cursor.rest.takeWhile (· == ' ')).length
  cursor.skip (min blanks (indent - cursor.column))

/-- Empty lines of a block. -/
def blockBreaks (indent fuel : Nat) (read : List Char) (cursor : Cursor) : List Char × Cursor :=
  match fuel with
  | 0 => (read, cursor)
  | fuel + 1 =>
      let here := skipIndent indent cursor
      match here.lineBreak? with
      | none => (read, here)
      | some (mark, after) => blockBreaks indent fuel (read ++ [mark]) after

/-- The empty lines at the start of a block, and the greatest indentation among
them and the first line that is not empty. -/
def blockStart (fuel : Nat) (read : List Char) (most : Nat) (cursor : Cursor) :
    List Char × Nat × Cursor :=
  match fuel with
  | 0 => (read, most, cursor)
  | fuel + 1 =>
      let here := cursor.skipBlanks
      let most := max most here.column
      match here.lineBreak? with
      | none => (read, most, here)
      | some (mark, after) => blockStart fuel (read ++ [mark]) most after

/-- The lines of a block with what was read before, which is reversed, its last
line break, the empty lines after it, and the place at which it ends. -/
def blockLines
    (fold : Bool)
    (indent fuel : Nat)
    (read empty : List Char)
    (cursor : Cursor) :
    List Char × List Char × List Char × Cursor :=
  match fuel with
  | 0 => (read.reverse, [], empty, cursor)
  | fuel + 1 =>
      if cursor.column != indent || cursor.atEnd then (read.reverse, [], empty, cursor)
      else
        let startsWord (place : Cursor) : Bool := !(place.head?.map isSpace).getD false
        let (line, lineEnd) := cursor.span fun c => !isBreak c
        let text := line.reverse ++ empty.reverse ++ read
        let (ending, after) :=
          match lineEnd.lineBreak? with
          | some (mark, after) => ([mark], after)
          | none => ([], lineEnd)
        let (more, next) := blockBreaks indent (after.left + 1) [] after
        if next.column != indent || next.atEnd then (text.reverse, ending, more, next)
        else
          let joint :=
            if fold && ending == ['\n'] && startsWord cursor && startsWord next then
              if more.isEmpty then [' '] else []
            else ending
          blockLines fold indent fuel (joint.reverse ++ text) more next

/-- A block scalar in a collection of the given indentation. -/
def block (fold : Bool) (parent : Int) (cursor : Cursor) : Reading (List Char) :=
  (blockHeader cursor.next).map fun (header, start) =>
    let least := max 1 (parent + 1).toNat
    let fuel := start.left + 1
    let (empty, indent, first) :=
      match header.indentation with
      | none =>
          let (empty, most, first) := blockStart fuel [] 0 start
          (empty, max least most, first)
      | some given =>
          let indent := least + given - 1
          let (empty, first) := blockBreaks indent fuel [] start
          (empty, indent, first)
    let (text, ending, more, last) := blockLines fold indent fuel [] empty first
    let tail :=
      match header.chomping with
      | .none => []
      | .one => ending
      | .all => ending ++ more
    (text ++ tail, last)

/-! ## Names and tags -/

/-- The characters of names. -/
def isNameChar (c : Char) : Bool :=
  c.isAlphanum || c == '-' || c == '_'

/-- The name of an anchor or an alias, after its mark. -/
def name (cursor : Cursor) : Reading String :=
  let (chars, after) := cursor.next.span isNameChar
  let ends :=
    match after.head? with
    | some c => isGap c || "?:,]\x7d%@`".toList.contains c
    | none => true
  if chars.isEmpty || !ends then .error .malformed
  else .ok (String.ofList chars, after)

/-- The characters of the address of a tag. -/
def isTagChar (c : Char) : Bool :=
  c.isAlphanum || "-;/?:@&=+$,_.!~*'()[]%".toList.contains c

/-- The bytes that percent escapes stand for. -/
def tagBytes (fuel : Nat) (text : List Char) : Option (List UInt8) :=
  match fuel, text with
  | 0, _ => none
  | _ + 1, [] => some []
  | fuel + 1, '%' :: a :: b :: rest =>
      match Text.hexValue? a, Text.hexValue? b with
      | some high, some low =>
          (tagBytes fuel rest).map fun bytes => UInt8.ofNat (high * 16 + low) :: bytes
      | _, _ => none
  | fuel + 1, c :: rest =>
      if c == '%' then none
      else (tagBytes fuel rest).map fun bytes => c.toString.toUTF8.toList ++ bytes

/-- The address of a tag. -/
def tagAddress (cursor : Cursor) : Reading String :=
  let (chars, after) := cursor.span isTagChar
  match (tagBytes (chars.length + 1) chars).map Text.decode with
  | some (.ok text) => if chars.isEmpty then .error .malformed else .ok (String.ofList text, after)
  | _ => .error .malformed

/-- The handle of a tag: a name between exclamation marks, or a single one before
a blank. -/
def tagHandle (cursor : Cursor) : Reading String :=
  match cursor.rest with
  | '!' :: ' ' :: _ => .ok ("!", cursor.next)
  | '!' :: rest =>
      let chars := rest.takeWhile isNameChar
      if (rest.drop chars.length).head? == some '!' then
        .ok (String.ofList ('!' :: chars ++ ['!']), cursor.skip (chars.length + 2))
      else .error .malformed
  | _ => .error .malformed

/-- A tag: its handle, if it has one, and its address. -/
structure Tag where
  handle : Option String
  address : String
  deriving DecidableEq, Repr

/-- Whether a tag has a handle of its own: an exclamation mark stands in it. -/
def hasHandle (text : List Char) : Bool :=
  (text.takeWhile fun c => c != ' ' && !isBreak c).contains '!'

/-- A tag at its exclamation mark. -/
def tagOnly (cursor : Cursor) : Except Fault (Tag × Cursor) :=
  match cursor.rest with
  | '!' :: '<' :: _ => do
      let (address, after) ← tagAddress (cursor.skip 2)
      if after.head? == some '>' then return (⟨none, address⟩, after.next)
      else throw .malformed
  | _ =>
      if cursor.gapAt 1 then .ok (⟨none, "!"⟩, cursor.next)
      else do
        let (handle, start) ←
          if hasHandle (cursor.rest.drop 1) then tagHandle cursor else .ok ("!", cursor.next)
        let (address, after) ← tagAddress start
        return (⟨some handle, address⟩, after)

/-- A tag at its exclamation mark, with a gap after it. -/
def tag (cursor : Cursor) : Reading Tag :=
  match tagOnly cursor with
  | .error fault => .error fault
  | .ok (found, after) => if after.wordEnds then .ok (found, after) else .error .malformed

end Yaml
end ApiTypings
