import ApiTypings.Decimal.Layout
import ApiTypings.Decimal.Limit
import ApiTypings.Text.Quoted
import ApiTypings.Value

/-!
# Writing JSON

Values as JSON text on one line, with a blank after every comma and colon. A
date is written as its text, and a key that is no text as the text of its value.
A key that is a date cannot be written, nor can an integer with too many digits.
-/

namespace ApiTypings
namespace Json

/-- How texts are quoted. -/
inductive Charset
  | unicode
  | ascii
  deriving DecidableEq, Repr

/-- A quoted text in a character set. -/
def Charset.quote (charset : Charset) (text : String) : String :=
  match charset with
  | .unicode => String.ofList (Text.quote text.toList)
  | .ascii => String.ofList (Text.quoteAscii text.toList)

/-- Why a value cannot be written. -/
inductive WriteError
  | momentKey (moment : Moment)
  | longInteger
  deriving DecidableEq, Repr

/-- The wording of an error. -/
def WriteError.message : WriteError → String
  | .momentKey moment => "keys must be str, int, float, bool or None, not " ++ moment.kind
  | .longInteger => Decimal.limitMessage none

/-- An integer in decimal digits. -/
def integerText (number : Int) : Except WriteError String :=
  if Decimal.isWritable number then .ok (toString number) else .error .longInteger

/-- The text of a key. -/
def keyText : Key → Except WriteError String
  | .null => .ok "null"
  | .bool flag => .ok (if flag then "true" else "false")
  | .int number => integerText number
  | .float number => .ok (Decimal.Layout.json.text number)
  | .text content => .ok content
  | .moment moment => .error (.momentKey moment)

mutual

/-- A value as JSON text. -/
def write (charset : Charset) : Value → Except WriteError String
  | .null => .ok "null"
  | .bool flag => .ok (if flag then "true" else "false")
  | .int number => integerText number
  | .float number => .ok (Decimal.Layout.json.text number)
  | .text content => .ok (charset.quote content)
  | .moment moment => .ok (charset.quote moment.text)
  | .list items => do
      return "[" ++ ", ".intercalate (← writeItems charset items) ++ "]"
  | .mapping entries => do
      return "\x7b" ++ ", ".intercalate (← writeEntries charset entries) ++ "\x7d"
  | .keyed entries => do
      return "\x7b" ++ ", ".intercalate (← writeKeyed charset entries) ++ "\x7d"

/-- The items of a list as JSON texts. -/
def writeItems (charset : Charset) : List Value → Except WriteError (List String)
  | [] => .ok []
  | item :: rest => do
      let first ← write charset item
      return first :: (← writeItems charset rest)

/-- The entries of a mapping as JSON texts. -/
def writeEntries (charset : Charset) : List (String × Value) → Except WriteError (List String)
  | [] => .ok []
  | (key, value) :: rest => do
      let text ← write charset value
      return (charset.quote key ++ ": " ++ text) :: (← writeEntries charset rest)

/-- The entries of a keyed value as JSON texts. -/
def writeKeyed (charset : Charset) : List (Key × Value) → Except WriteError (List String)
  | [] => .ok []
  | (key, value) :: rest => do
      let name ← keyText key
      let text ← write charset value
      return (charset.quote name ++ ": " ++ text) :: (← writeKeyed charset rest)

end

end Json
end ApiTypings
