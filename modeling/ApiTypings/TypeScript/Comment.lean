import ApiTypings.Json.Writer
import ApiTypings.Text.Blank

/-!
# Doc comments

The lines of a comment in front of a declaration or a member. No text inside a
comment can close it.
-/

namespace ApiTypings
namespace TypeScript

/-- What a comment says. Values other than texts are written as JSON. -/
structure Remark where
  description : Value := .null
  tags : List Value := []
  example? : Option Value := none

/-- A text in which no comment ends: the slash after a star is escaped. -/
def sealComment : List Char → List Char
  | '*' :: '/' :: rest => '*' :: '\\' :: '/' :: sealComment rest
  | c :: rest => c :: sealComment rest
  | [] => []

/-- A value as the text of a comment. -/
def commentText (value : Value) : Except Json.WriteError (List Char) :=
  match value with
  | .text content => .ok (sealComment content.toList)
  | other => (Json.write .ascii other).map fun text => sealComment text.toList

namespace Remark

/-- A remark that is a description only. -/
def about (description : Option String) : Remark :=
  { description := (description.map .text).getD .null }

/-- The lines of a description. -/
def descriptionLines (description : Value) : Except Json.WriteError (List (List Char)) :=
  if description.isTruthy then
    (commentText description).map fun text => Text.lines (Text.trim text)
  else .ok []

/-- The line of an example. -/
def exampleLine (value : Value) : Except Json.WriteError (List Char) :=
  (Json.write .unicode value).map fun text => "@example ".toList ++ sealComment text.toList

/-- What stands inside the comment: description, tags and example. -/
def content (remark : Remark) : Except Json.WriteError (List (List Char)) := do
  let description ← descriptionLines remark.description
  let tags ← remark.tags.mapM commentText
  let sample ← remark.example?.toList.mapM exampleLine
  return description ++ tags ++ sample

/-- The lines of a comment around its content: none for no content, one for one
line, and otherwise a line for each between an opening and a closing line. -/
def frame (content : List (List Char)) : List (List Char) :=
  match content with
  | [] => []
  | [line] => ["/** ".toList ++ line ++ " */".toList]
  | lines =>
      "/**".toList :: (lines.map fun line => Text.trimEnd (" * ".toList ++ line)) ++
        [" */".toList]

/-- The lines of a comment. -/
def lines (remark : Remark) : Except Json.WriteError (List String) :=
  remark.content.map fun content => (frame content).map String.ofList

end Remark

end TypeScript
end ApiTypings
