import ApiTypings.Decimal.Layout
import ApiTypings.Text.SingleQuoted
import ApiTypings.Value

/-!
# Values in messages

How a message shows a value: texts in quotes, lists in brackets, mappings in
braces, each with its parts in order.
-/

namespace ApiTypings
namespace Value

/-- The name of the kind of a value. -/
def kind : Value → String
  | .null => "NoneType"
  | .bool _ => "bool"
  | .int _ => "int"
  | .float _ => "float"
  | .text _ => "str"
  | .moment given => given.kind
  | .list _ => "list"
  | .mapping _ | .keyed _ => "dict"

/-- A key as a message shows it. -/
def shownKey : Key → String
  | .null => "None"
  | .bool flag => if flag then "True" else "False"
  | .int number => toString number
  | .float number => Decimal.Layout.plain.text number
  | .text content => Text.singleQuoted content
  | .moment given => given.expression

/-- Texts between commas in brackets. -/
def bracketed (opening : String) (parts : List String) (closing : String) : String :=
  opening ++ ", ".intercalate parts ++ closing

mutual

/-- A value as a message shows it. -/
def shown : Value → String
  | .null => "None"
  | .bool flag => if flag then "True" else "False"
  | .int number => toString number
  | .float number => Decimal.Layout.plain.text number
  | .text content => Text.singleQuoted content
  | .moment given => given.expression
  | .list items => bracketed "[" (shownItems items) "]"
  | .mapping entries => bracketed "\x7b" (shownEntries entries) "\x7d"
  | .keyed entries => bracketed "\x7b" (shownKeyed entries) "\x7d"

/-- The items of a list as a message shows them. -/
def shownItems : List Value → List String
  | [] => []
  | item :: rest => shown item :: shownItems rest

/-- The entries of a mapping as a message shows them. -/
def shownEntries : List (String × Value) → List String
  | [] => []
  | (key, value) :: rest =>
      (Text.singleQuoted key ++ ": " ++ shown value) :: shownEntries rest

/-- The entries of a keyed value as a message shows them. -/
def shownKeyed : List (Key × Value) → List String
  | [] => []
  | (key, value) :: rest => (shownKey key ++ ": " ++ shown value) :: shownKeyed rest

end

end Value
end ApiTypings
