/-!
# Declarations

Exported declarations and the text of a module. Blocks are separated by a blank
line, and a text that is not empty ends with a line break.
-/

namespace ApiTypings
namespace TypeScript

/-- How a declaration is written. -/
inductive DeclarationKind
  | interface
  | type
  deriving DecidableEq, Repr

/-- The word of a kind. -/
def DeclarationKind.word : DeclarationKind → String
  | .interface => "interface"
  | .type => "type"

/-- An exported declaration, with the lines of the comment in front of it. -/
structure Declaration where
  name : String
  kind : DeclarationKind
  body : String
  comment : List String := []
  deriving DecidableEq, Repr

/-- The text of a declaration. -/
def Declaration.render (declaration : Declaration) : String :=
  let statement :=
    match declaration.kind with
    | .interface => "export interface " ++ declaration.name ++ " " ++ declaration.body
    | .type => "export type " ++ declaration.name ++ " = " ++ declaration.body ++ ";"
  "\n".intercalate (declaration.comment ++ [statement])

/-- The banner at the top of a module. -/
def banner : String :=
  "\n".intercalate [
    "/**",
    " * This file was auto-generated by ts-open-api.",
    " * DO NOT MAKE DIRECT CHANGES TO THE FILE.",
    " */"]

/-- The text of a module. -/
def moduleText (header : Bool) (declarations : List Declaration) : String :=
  let blocks := (if header then [banner] else []) ++ declarations.map Declaration.render
  if blocks.isEmpty then "" else "\n\n".intercalate blocks ++ "\n"

end TypeScript
end ApiTypings
