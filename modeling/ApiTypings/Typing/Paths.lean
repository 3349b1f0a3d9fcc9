import ApiTypings.Document.Content
import ApiTypings.Text.Digit
import ApiTypings.Typing.Schema

/-!
# The type of all paths

An object type with a member for every path, under it a member for every method,
and under that the parameters by place, the request body and the responses.
-/

namespace ApiTypings
namespace Typing

open Component Document TypeScript

/-- The places of parameters. -/
inductive Place
  | path
  | query
  | header
  | cookie
  deriving DecidableEq, Repr

/-- All places in order. -/
def Place.all : List Place :=
  [.path, .query, .header, .cookie]

/-- The key of a place. -/
def Place.key : Place → String
  | .path => "path"
  | .query => "query"
  | .header => "header"
  | .cookie => "cookie"

/-- The place with a key. -/
def Place.ofKey? (key : String) : Option Place :=
  Place.all.find? fun place => place.key == key

/-- The object of a node, if it is of the right kind. -/
def resolveAs
    {α : Type}
    (context : Context)
    (problem : Problem)
    (pick : Target → Option α) :
    OrReference α → Except ReferenceError α
  | .inline object => .ok object
  | .reference reference =>
      match context.catalog.follow context.location [] reference.target with
      | .error error => .error error
      | .ok (_, target) =>
          match pick target with
          | some object => .ok object
          | none => .error ⟨reference.target, problem, context.location⟩

/-- The parameter of a node. -/
def resolveParameter (context : Context) :
    OrReference Parameter → Except ReferenceError Parameter :=
  resolveAs context .notParameter fun
    | .parameter parameter => some parameter
    | _ => none

/-- The request body of a node. -/
def resolveRequestBody (context : Context) :
    OrReference RequestBody → Except ReferenceError RequestBody :=
  resolveAs context .notRequestBody fun
    | .requestBody body => some body
    | _ => none

/-- The response of a node. -/
def resolveResponse (context : Context) : OrReference Response → Except ReferenceError Response :=
  resolveAs context .notResponse fun
    | .response response => some response
    | _ => none

/-- The comment on something that has only a description. -/
def note (options : Options) (description : Option String) :
    Except Json.WriteError (List String) :=
  if options.includeDescriptions then (Remark.about description).lines else .ok []

/-- The type of the primary representation. -/
def contentType (context : Context) (content : Content) : Traced TypeExpr :=
  typeOf? context [] ((primary? content).bind MediaType.schema)

/-- The type of a parameter. A path parameter that is a string may be written as
a template literal. -/
def parameterType (context : Context) (parameter : Parameter) : Traced TypeExpr := do
  let type ←
    match parameter.schema with
    | some node => typeOf context ⟨[], node⟩
    | none => contentType context parameter.content
  match type with
  | .keyword .string =>
      if context.options.pathParamsAsTypes && parameter.location == Place.path.key then
        return .template
      else return type
  | _ => return type

/-- The comment on a parameter. -/
def parameterComment (options : Options) (parameter : Parameter) :
    Except Json.WriteError (List String) :=
  if options.includeDescriptions then
    let remark : Remark :=
      { Remark.about parameter.description with
        tags := if parameter.deprecated then [.text "@deprecated"] else [] }
    remark.lines
  else .ok []

/-- The member of a parameter. -/
def parameterMember (context : Context) (parameter : Parameter) :
    Traced (Member TypeExpr) := do
  let type ← parameterType context parameter
  let comment ← Traced.ofWritten (parameterComment context.options parameter)
  return {
    key := .quoted parameter.name
    type := type
    optional := !parameter.required
    comment := comment }

/-- The parameters of an operation: of those with the same place and name the
last one counts, at the place of the first one. -/
def mergeParameters (parameters : List Parameter) : List Parameter :=
  (Entries.ofPairs (parameters.map fun parameter =>
    ((parameter.location, parameter.name), parameter))).map Prod.snd

/-- Report a parameter whose place is unknown. -/
def reportStray (parameter : Parameter) : Traced Unit :=
  if (Place.ofKey? parameter.location).isSome then .done ()
  else .report (.skippedParameter parameter.name parameter.location)

/-- The member of the parameters at a place, if there are any. -/
def placeMember (context : Context) (parameters : List Parameter) (place : Place) :
    Traced (Option (Member TypeExpr)) :=
  match parameters.filter fun parameter => parameter.location == place.key with
  | [] => .done none
  | found => do
      let members ← Traced.sequence (found.map (parameterMember context))
      return some {
        key := .word place.key
        type := .object members
        optional := !found.any Parameter.required }

/-- The member of the parameters of an operation, if there are any. -/
def parametersMember (context : Context) (item : PathItem) (operation : Operation) :
    Traced (Option (Member TypeExpr)) := do
  let nodes := item.parameters ++ operation.parameters
  let resolved ← Traced.sequence (nodes.map fun node => .ofReferred (resolveParameter context node))
  let parameters := mergeParameters resolved
  let _ ← Traced.sequence (parameters.map reportStray)
  let groups ← Traced.sequence (Place.all.map (placeMember context parameters))
  match groups.filterMap id with
  | [] => return none
  | members => return some { key := .word "parameters", type := .object members }

/-- The member of the request body of an operation, if there is one. -/
def requestBodyMember (context : Context) (operation : Operation) :
    Traced (Option (Member TypeExpr)) :=
  match operation.requestBody with
  | none => .done none
  | some node => do
      let body ← Traced.ofReferred (resolveRequestBody context node)
      let type ← contentType context body.content
      let comment ← Traced.ofWritten (note context.options body.description)
      return some {
        key := .word "requestBody"
        type := type
        optional := !body.required
        comment := comment }

/-- The key of a response: a number and `default` need no quotes. -/
def statusKey (status : String) : MemberKey :=
  if Text.allDigits status.toList || status == "default" then .word status else .quoted status

/-- The member of a response. -/
def responseMember (context : Context) (entry : String × OrReference Response) :
    Traced (Member TypeExpr) := do
  let response ← Traced.ofReferred (resolveResponse context entry.2)
  let type ←
    if response.content.isEmpty then Traced.done (.keyword .void)
    else contentType context response.content
  let comment ← Traced.ofWritten (note context.options response.description)
  return {
    key := statusKey entry.1
    type := type
    comment := comment }

/-- The member of the responses of an operation. -/
def responsesMember (context : Context) (operation : Operation) :
    Traced (Member TypeExpr) := do
  let members ← Traced.sequence (operation.responses.map (responseMember context))
  return { key := .word "responses", type := .objectOr .never members }

/-- The comment on an operation. -/
def operationComment (options : Options) (operation : Operation) :
    Except Json.WriteError (List String) :=
  if options.includeDescriptions then
    let parts := [operation.summary, operation.description].filterMap id
    let identifier := (operation.operationId.filter (· != "")).toList.map fun name =>
      Value.text ("@operationId " ++ name)
    let remark : Remark :=
      { Remark.about (some ("\n".intercalate (parts.filter (· != "")))) with
        tags := identifier ++ if operation.deprecated then [.text "@deprecated"] else [] }
    remark.lines
  else .ok []

/-- The unit of an operation, as errors name it. -/
def operationLocation (path : String) (method : Method) : String :=
  String.ofList (method.key.toList.map Char.toUpper) ++ " " ++ path

/-- The member of an operation. -/
def operationMember
    (catalog : Catalog)
    (options : Options)
    (path : String)
    (item : PathItem)
    (entry : Method × Operation) :
    Traced (Member TypeExpr) := do
  let context : Context := ⟨catalog, options, some (operationLocation path entry.1)⟩
  let parameters ← parametersMember context item entry.2
  let requestBody ← requestBodyMember context entry.2
  let responses ← responsesMember context entry.2
  let comment ← Traced.ofWritten (operationComment options entry.2)
  return {
    key := .word entry.1.key
    type := .object (parameters.toList ++ requestBody.toList ++ [responses])
    comment := comment }

/-- The member of a path. -/
def pathMember (catalog : Catalog) (options : Options) (entry : String × PathItem) :
    Traced (Member TypeExpr) :=
  match entry.2.operations with
  | [] => do
      Traced.report (.withoutOperations entry.1)
      return { key := .quoted entry.1, type := .record .never }
  | operations => do
      let members ← Traced.sequence
        (operations.map (operationMember catalog options entry.1 entry.2))
      return { key := .quoted entry.1, type := .object members }

/-- The declaration of all paths, if there are any. -/
def pathsDeclaration (catalog : Catalog) (options : Options) : Traced (Option Declaration) :=
  match catalog.description.paths with
  | [] => .done none
  | paths => do
      let members ← Traced.sequence (paths.map (pathMember catalog options))
      return some {
        name := pathsName
        kind := if options.exportType then .type else .interface
        body := TypeExpr.render 0 (.object members) }

end Typing
end ApiTypings
