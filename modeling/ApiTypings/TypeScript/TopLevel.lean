import ApiTypings.Text.Blank

/-!
# Operators at top level

A scanner over the text of a type that knows strings, comments and brackets. An
operator is at top level when the scanner is outside all three.
-/

namespace ApiTypings
namespace TypeScript

/-- Where the scanner stands. In a comment, `star` tells whether a slash would
end it; right after its opening none can. -/
inductive Mode
  | code
  | string
  | escaped
  | opening
  | comment (star : Bool)
  deriving DecidableEq, Repr

/-- The state of the scanner: where it stands, and how many brackets are open. -/
structure Scan where
  mode : Mode
  depth : Int
  deriving DecidableEq, Repr

namespace Scan

/-- The state in front of a type. -/
def start : Scan := ⟨.code, 0⟩

/-- The brackets that open. -/
def isOpening (c : Char) : Bool :=
  c == '{' || c == '[' || c == '(' || c == '<'

/-- The brackets that close. -/
def isClosing (c : Char) : Bool :=
  c == '}' || c == ']' || c == ')' || c == '>'

/-- Whether a character opens a comment, given the one after it. -/
def opensComment (c : Char) (next : Option Char) : Bool :=
  c == '/' && next == some '*'

/-- The state after a character, given the one after it. -/
def advance (scan : Scan) (c : Char) (next : Option Char) : Scan :=
  match scan.mode with
  | .comment star =>
      { scan with mode := if c == '/' && star then .code else .comment (c == '*') }
  | .opening => { scan with mode := .comment false }
  | .escaped => { scan with mode := .string }
  | .string =>
      if c == '\\' then { scan with mode := .escaped }
      else if c == '"' then { scan with mode := .code }
      else scan
  | .code =>
      if c == '"' then { scan with mode := .string }
      else if opensComment c next then { scan with mode := .opening }
      else if isOpening c then { scan with depth := scan.depth + 1 }
      else if isClosing c then { scan with depth := scan.depth - 1 }
      else scan

/-- Whether a character is an operator at top level. -/
def isOperator (scan : Scan) (operator c : Char) (next : Option Char) : Bool :=
  scan.mode == .code && scan.depth == 0 && c == operator && c != '"' &&
    !opensComment c next && !isOpening c && !isClosing c

/-- The state after a text. -/
def run (scan : Scan) : List Char → Scan
  | [] => scan
  | c :: rest => run (scan.advance c rest.head?) rest

end Scan

/-- The pieces of a text between operators at top level; `current` is the
reversed start of the piece that is being read. -/
def splitFrom (operator : Char) (scan : Scan) (current : List Char) :
    List Char → List (List Char)
  | [] => [current.reverse]
  | c :: rest =>
      if scan.isOperator operator c rest.head? then
        current.reverse :: splitFrom operator scan [] rest
      else splitFrom operator (scan.advance c rest.head?) (c :: current) rest

/-- The members of a type that an operator joins at top level. -/
def splitTopLevel (expression : List Char) (operator : Char) : List (List Char) :=
  (splitFrom operator .start [] expression).map Text.trim

/-- Whether one of the operators stands at top level. -/
def needsParentheses (expression operators : List Char) : Bool :=
  operators.any fun operator => 1 < (splitTopLevel expression operator).length

/-- A type in parentheses if one of the operators stands at top level. -/
def parenthesize (expression operators : List Char) : List Char :=
  if needsParentheses expression operators then '(' :: (expression ++ [')'])
  else expression

end TypeScript
end ApiTypings
