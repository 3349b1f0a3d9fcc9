import ApiTypings.Text.Half

/-!
# Quoted texts

A text in double quotes, as JSON and TypeScript write it. Quotes, backslashes
and control characters are escaped; the ASCII form escapes every code point
outside the printable ASCII range as well.
-/

namespace ApiTypings
namespace Text

/-- The short escape of a character, if it has one. -/
def shortEscape? : Char → Option Char
  | '"' => some '"'
  | '\\' => some '\\'
  | '\n' => some 'n'
  | '\r' => some 'r'
  | '\t' => some 't'
  | '\x08' => some 'b'
  | '\x0c' => some 'f'
  | _ => none

/-- A character inside quotes. -/
def escape (c : Char) : List Char :=
  match shortEscape? c with
  | some mark => ['\\', mark]
  | none => if c.toNat < 0x20 then unicodeEscape c.toNat else [c]

/-- A code point inside quotes, in ASCII only. A character beyond the basic plane
is written as two code units. -/
def escapeAscii (code : Nat) : List Char :=
  match shortEscape? (Char.ofNat code) with
  | some mark => ['\\', mark]
  | none =>
      if 0x20 ≤ code ∧ code ≤ 0x7E then [Char.ofNat code]
      else if code < 0x10000 then unicodeEscape code
      else
        unicodeEscape (0xD800 + (code - 0x10000) / 0x400) ++
          unicodeEscape (0xDC00 + (code - 0x10000) % 0x400)

/-- A text in double quotes. -/
def quote (text : List Char) : List Char :=
  '"' :: (text.flatMap escape ++ ['"'])

/-- A text in double quotes, in ASCII only. -/
def quoteAscii (text : List Char) : List Char :=
  '"' :: ((codes text).flatMap escapeAscii ++ ['"'])

/-- `quote` on strings. -/
def quoted (text : String) : String :=
  String.ofList (quote text.toList)

end Text
end ApiTypings
