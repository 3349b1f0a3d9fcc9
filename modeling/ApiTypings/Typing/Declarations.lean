import ApiTypings.Typing.Paths

/-!
# Declarations of a document

One declaration for every component schema, and the text of the module that they
make up with the declaration of all paths.
-/

namespace ApiTypings
namespace Typing

open Component Document TypeScript

/-- Whether a node is an object with constraints on its members only. -/
def isPlainObject : Node → Bool
  | .reference _ => false
  | .inline schema => schema.isPlainObject

/-- The kind of the declaration of a node with a body. -/
def declarationKind (options : Options) (node : Node) (body : String) : DeclarationKind :=
  if !options.exportType && isPlainObject node && Text.startsWith "\x7b".toList body.toList then
    .interface
  else .type

/-- The comment on the declaration of a node. -/
def declarationComment (options : Options) : Node → Except Json.WriteError (List String)
  | .reference _ => .ok []
  | .inline schema => describe options (.inline schema)

/-- The declaration of a component schema. The component itself counts as being
expanded. -/
def schemaDeclaration
    (catalog : Catalog)
    (options : Options)
    (entry : Pointer × String × Node) :
    Traced Declaration := do
  let ⟨pointer, name, node⟩ := entry
  let context : Context := ⟨catalog, options, some pointer.text⟩
  let type ← typeOf context ⟨[pointer], node⟩
  let body := type.render 0
  let kind := declarationKind options node body
  let comment ← Traced.ofWritten (declarationComment options node)
  Traced.report (.emitted kind name)
  return ⟨name, kind, body, comment⟩

/-- The declarations of the component schemas, in document order or by name. -/
def schemaDeclarations (catalog : Catalog) (options : Options) : Traced (List Declaration) := do
  let declarations ← Traced.sequence
    (catalog.declarations.map (schemaDeclaration catalog options))
  return if options.alphabetize then
    declarations.mergeSort fun a b => decide (a.name ≤ b.name)
  else declarations

/-- The text of the module of a document. -/
def generate (catalog : Catalog) (options : Options) : Traced String := do
  let paths ← pathsDeclaration catalog options
  let declarations ← schemaDeclarations catalog options
  Traced.report (.generated declarations.length paths.isSome)
  return moduleText options.header (paths.toList ++ declarations)

/-- The text of the module of a document, with the report on its components. -/
def generateFrom (description : Description) (options : Options) : Traced String := do
  let catalog := Catalog.ofDescription description
  Traced.report (.indexed catalog.size catalog.names.length)
  generate catalog options

end Typing
end ApiTypings
