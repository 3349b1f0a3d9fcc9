/-!
# Blanks and line breaks

Which characters count as blank, how a text is trimmed, and how it falls into
lines. Both classes are those of the Unicode standard, so they reach beyond
ASCII: a no-break space is blank, and a line separator ends a line.
-/

namespace ApiTypings
namespace Text

/-- The white space of the Unicode standard. -/
def isWhiteSpace (c : Char) : Bool :=
  let n := c.toNat
  (0x09 ≤ n && n ≤ 0x0D) || n == 0x20 || n == 0x85 || n == 0xA0 || n == 0x1680 ||
    (0x2000 ≤ n && n ≤ 0x200A) || n == 0x2028 || n == 0x2029 || n == 0x202F ||
    n == 0x205F || n == 0x3000

/-- The characters that trimming removes: white space and the four information
separators. -/
def isBlank (c : Char) : Bool :=
  isWhiteSpace c || (0x1C ≤ c.toNat && c.toNat ≤ 0x1F)

/-- The characters that end a line. -/
def isLineBreak (c : Char) : Bool :=
  let n := c.toNat
  (0x0A ≤ n && n ≤ 0x0D) || (0x1C ≤ n && n ≤ 0x1E) || n == 0x85 ||
    n == 0x2028 || n == 0x2029

/-- A text without the blanks at its end. -/
def trimEnd (text : List Char) : List Char :=
  (text.reverse.dropWhile isBlank).reverse

/-- A text without the blanks at either end. -/
def trim (text : List Char) : List Char :=
  trimEnd (text.dropWhile isBlank)

/-- The lines of the remaining text, `current` being the reversed start of the
line that is being read. -/
def linesFrom (current : List Char) : List Char → List (List Char)
  | [] => if current.isEmpty then [] else [current.reverse]
  | '\r' :: '\n' :: rest => current.reverse :: linesFrom [] rest
  | c :: rest =>
      if isLineBreak c then current.reverse :: linesFrom [] rest
      else linesFrom (c :: current) rest

/-- The lines of a text, without their line breaks. A carriage return and the
line feed after it end one line, and a break at the end opens no further line. -/
def lines (text : List Char) : List (List Char) :=
  linesFrom [] text

/-- Split a text at every occurrence of a character; there is always at least
one part. -/
def splitAt (separator : Char) : List Char → List (List Char)
  | [] => [[]]
  | c :: rest =>
      if c = separator then [] :: splitAt separator rest
      else
        match splitAt separator rest with
        | [] => [[c]]
        | part :: parts => (c :: part) :: parts

/-- Whether `pattern` starts the text. -/
def startsWith (pattern text : List Char) : Bool :=
  pattern.isPrefixOf text

/-- Whether `pattern` ends the text. -/
def endsWith (pattern text : List Char) : Bool :=
  pattern.isSuffixOf text

/-- Whether `pattern` occurs in the text. -/
def hasPart (pattern : List Char) : List Char → Bool
  | [] => pattern.isEmpty
  | c :: rest => pattern.isPrefixOf (c :: rest) || hasPart pattern rest

/-- Lower-case the ASCII letters of a text. -/
def lowerAscii (text : List Char) : List Char :=
  text.map Char.toLower

end Text
end ApiTypings
