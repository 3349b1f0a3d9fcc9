import ApiTypings.Text.Blank

/-!
# Places in a text

A cursor is what follows a place in a text, together with its length and the
offset, the line and the column of the place.
-/

namespace ApiTypings
namespace Yaml

/-- The line and paragraph separators, which stay as they are in a scalar. -/
def isSeparatorBreak (c : Char) : Bool :=
  c.toNat == 0x2028 || c.toNat == 0x2029

/-- Whether a character ends a line. -/
def isBreak (c : Char) : Bool :=
  c == '\n' || c == '\r' || c.toNat == 0x85 || isSeparatorBreak c

/-- Whether a character is a blank or a tab. -/
def isSpace (c : Char) : Bool :=
  c == ' ' || c == '\t'

/-- Whether a character is a blank, a tab or a line break. -/
def isGap (c : Char) : Bool :=
  isSpace c || isBreak c

/-- Whether a character may stand in a document. -/
def isPrintable (c : Char) : Bool :=
  let code := c.toNat
  c == '\t' || c == '\n' || c == '\r' || (0x20 ≤ code && code ≤ 0x7E) || code == 0x85 ||
    (0xA0 ≤ code && code ≤ 0xFFFD) || 0x10000 ≤ code

/-- A place in a text. -/
structure Cursor where
  rest : List Char
  /-- How many characters follow. -/
  left : Nat
  index : Nat := 0
  line : Nat := 0
  column : Nat := 0

namespace Cursor

/-- The start of a text. -/
def ofText (text : List Char) : Cursor :=
  { rest := text, left := text.length }

/-- The character at a place. -/
def head? (cursor : Cursor) : Option Char :=
  cursor.rest.head?

/-- Whether the text ends at a place. -/
def atEnd (cursor : Cursor) : Bool :=
  cursor.rest.isEmpty

/-- Whether a blank, a tab, a line break or the end of the text is at some
distance. -/
def gapAt (cursor : Cursor) (distance : Nat) : Bool :=
  match cursor.rest[distance]? with
  | some c => isGap c
  | none => true

/-- Whether a blank, a line break or the end of the text comes next. -/
def wordEnds (cursor : Cursor) : Bool :=
  match cursor.head? with
  | some c => c == ' ' || isBreak c
  | none => true

/-- Whether a line break or the end of the text comes next. -/
def lineEnds (cursor : Cursor) : Bool :=
  match cursor.head? with
  | some c => isBreak c
  | none => true

/-- The place after the next character. A carriage return before a line feed does
not end a line, and a byte order mark takes no column. -/
def next (cursor : Cursor) : Cursor :=
  match cursor.rest with
  | [] => cursor
  | c :: rest =>
      if isBreak c && !(c == '\r' && rest.head? == some '\n') then
        ⟨rest, cursor.left - 1, cursor.index + 1, cursor.line + 1, 0⟩
      else
        ⟨rest, cursor.left - 1, cursor.index + 1, cursor.line,
          if c.toNat == 0xFEFF then cursor.column else cursor.column + 1⟩

/-- The place after a number of characters. -/
def skip (cursor : Cursor) : Nat → Cursor
  | 0 => cursor
  | count + 1 => cursor.next.skip count

/-- The characters of a kind that come next, and the place after them. -/
def span (cursor : Cursor) (member : Char → Bool) : List Char × Cursor :=
  let taken := cursor.rest.takeWhile member
  (taken, cursor.skip taken.length)

/-- The place after the characters of a kind that come next. -/
def skipWhile (cursor : Cursor) (member : Char → Bool) : Cursor :=
  (cursor.span member).2

/-- The place after the blanks that come next. -/
def skipBlanks (cursor : Cursor) : Cursor :=
  cursor.skipWhile (· == ' ')

/-- The end of the line, if a comment comes next. -/
def skipComment (cursor : Cursor) : Cursor :=
  if cursor.head? == some '#' then cursor.skipWhile fun c => !isBreak c else cursor

/-- The line break that comes next, as it reads in a scalar, and the place after
it. -/
def lineBreak? (cursor : Cursor) : Option (Char × Cursor) :=
  match cursor.rest with
  | '\r' :: '\n' :: _ => some ('\n', cursor.skip 2)
  | c :: _ =>
      if isSeparatorBreak c then some (c, cursor.next)
      else if isBreak c then some ('\n', cursor.next)
      else none
  | [] => none

/-- Whether a mark comes next, with a gap after it. -/
def marks (cursor : Cursor) (mark : String) : Bool :=
  Text.startsWith mark.toList cursor.rest && cursor.gapAt mark.length

/-- Whether the start or the end of a document is marked here. -/
def marksDocument (cursor : Cursor) : Bool :=
  cursor.marks "---" || cursor.marks "..."

end Cursor

end Yaml
end ApiTypings
