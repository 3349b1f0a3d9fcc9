import ApiTypings.Text.Hex
import ApiTypings.Text.Utf8

/-!
# Percent escapes

Escaped bytes inside a text. Reading them, a run of ASCII characters is read as bytes, with
its escapes, and decoded as UTF-8; other characters stand for themselves. Writing
them, escapes that are there already are kept.
-/

namespace ApiTypings
namespace Text

/-- The bytes of an ASCII text with its escapes read; an incomplete escape
stands for itself. -/
def percentBytes : List Char → List UInt8
  | '%' :: a :: b :: rest =>
      match hexValue? a, hexValue? b with
      | some high, some low => UInt8.ofNat (high * 16 + low) :: percentBytes rest
      | _, _ => UInt8.ofNat '%'.toNat :: percentBytes (a :: b :: rest)
  | c :: rest => UInt8.ofNat c.toNat :: percentBytes rest
  | [] => []

/-- Whether a character is in ASCII. -/
def isAscii (c : Char) : Bool :=
  c.toNat < 0x80

/-- A text with its escapes decoded; `run` is the reversed run of ASCII
characters that is being read. -/
def percentDecodeFrom (run : List Char) : List Char → List Char
  | [] => decodeLossy (percentBytes run.reverse)
  | c :: rest =>
      if isAscii c then percentDecodeFrom (c :: run) rest
      else decodeLossy (percentBytes run.reverse) ++ c :: percentDecodeFrom [] rest

/-- A text with its escapes decoded. -/
def percentDecode (text : List Char) : List Char :=
  percentDecodeFrom [] text

/-- The escapes of the bytes of a character. -/
def percentEscape (c : Char) : List Char :=
  (String.singleton c).toUTF8.toList.flatMap fun byte =>
    '%' :: (hexByte byte).toList.map Char.toUpper

/-- A text in which the characters that are not safe are escaped. -/
def percentEncode (isSafe : Char → Bool) : List Char → List Char
  | '%' :: a :: b :: rest =>
      if isHexDigit a && isHexDigit b then '%' :: a :: b :: percentEncode isSafe rest
      else
        (if isSafe '%' then ['%'] else percentEscape '%') ++
          percentEncode isSafe (a :: b :: rest)
  | c :: rest => (if isSafe c then [c] else percentEscape c) ++ percentEncode isSafe rest
  | [] => []

end Text
end ApiTypings
