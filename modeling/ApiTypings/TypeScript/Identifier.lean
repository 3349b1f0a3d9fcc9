import ApiTypings.Text.Base

/-!
# Identifiers

Which names can be declared as they stand, and how any other name is turned
into one that can: its runs of letters, digits, `_` and `$` are capitalised and
joined.
-/

namespace ApiTypings
namespace TypeScript

/-- Names that cannot be declared, because they are types of the language. -/
def reservedNames : List String :=
  ["any", "bigint", "boolean", "never", "null", "number", "object", "string", "symbol",
    "undefined", "unknown", "void"]

/-- The name of a declaration that has no other. -/
def unnamedType : String := "UnnamedType"

/-- The characters an identifier can start with. -/
def isNameStart (c : Char) : Bool :=
  c.isAlpha || c == '_' || c == '$'

/-- The characters of an identifier. -/
def isNameChar (c : Char) : Bool :=
  c.isAlphanum || c == '_' || c == '$'

/-- Whether a text is an identifier; one line feed at its end is let pass. -/
def isIdentifier (name : List Char) : Bool :=
  match name with
  | [] => false
  | c :: rest =>
      let body := if rest.getLast? == some '\n' then rest.dropLast else rest
      isNameStart c && body.all isNameChar

/-- The longest runs of name characters, in order; `current` is the reversed
start of the run that is being read. -/
def nameRuns (current : List Char) : List Char → List (List Char)
  | [] => if current.isEmpty then [] else [current.reverse]
  | c :: rest =>
      if isNameChar c then nameRuns (c :: current) rest
      else if current.isEmpty then nameRuns [] rest
      else current.reverse :: nameRuns [] rest

/-- The runs of a name without accents, capitalised and joined, with an
underscore in front of a leading digit. -/
def pascalCase (name : List Char) : List Char :=
  let joined := (nameRuns [] (Text.removeAccents name)).flatMap Text.capitalize
  match joined with
  | c :: _ => if c.isDigit then '_' :: joined else joined
  | [] => []

/-- The name under which a component is declared. Identifiers are kept, and an
underscore sets a reserved name apart. -/
def declarableName (name : String) : String :=
  if name.isEmpty then unnamedType
  else
    let plain :=
      if isIdentifier name.toList then name
      else String.ofList (pascalCase name.toList)
    if reservedNames.contains plain then plain ++ "_"
    else if plain.isEmpty then unnamedType
    else plain

end TypeScript
end ApiTypings
