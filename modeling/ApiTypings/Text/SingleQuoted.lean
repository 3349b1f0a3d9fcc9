import ApiTypings.Text.Quoted
import ApiTypings.Text.Unseen

/-!
# Single-quoted texts

A text as messages show it: in single quotes, or in double quotes if it holds
single ones and no double ones. Code points that cannot be seen are escaped.
-/

namespace ApiTypings
namespace Text

/-- The hexadecimal digits of a number, as many as asked for. -/
def hexDigits : Nat → Nat → List Char
  | 0, _ => []
  | count + 1, n => hexDigits count (n / 16) ++ [hexDigit (n % 16)]

/-- A code point between the given quotes. -/
def escapeBetween (mark : Char) (code : Nat) : List Char :=
  let c := Char.ofNat code
  if c = mark ∨ c = '\\' then ['\\', c]
  else if c = '\n' then ['\\', 'n']
  else if c = '\r' then ['\\', 'r']
  else if c = '\t' then ['\\', 't']
  else if isVisible c then [c]
  else if code < 0x100 then '\\' :: 'x' :: hexDigits 2 code
  else if code < 0x10000 then '\\' :: 'u' :: hexDigits 4 code
  else '\\' :: 'U' :: hexDigits 8 code

/-- A text in quotes. -/
def singleQuoted (text : String) : String :=
  let chars := text.toList
  let mark := if chars.contains '\'' && !chars.contains '"' then '"' else '\''
  String.ofList (mark :: ((codes chars).flatMap (escapeBetween mark) ++ [mark]))

end Text
end ApiTypings
