import ApiTypings.Document.Schema

/-!
# Operations

Paths, their operations, and the components of a document, read from normal
forms.
-/

namespace ApiTypings
namespace Document

/-- A representation of a body. -/
structure MediaType where
  schema : Option Node := none

/-- Representations by content type. -/
abbrev Content := List (String × MediaType)

/-- A parameter of an operation. -/
structure Parameter where
  name : String
  location : String
  description : Option String := none
  required : Bool := false
  deprecated : Bool := false
  schema : Option Node := none
  content : Content := []

/-- The body of a request. -/
structure RequestBody where
  description : Option String := none
  content : Content := []
  required : Bool := false

/-- A response of an operation. -/
structure Response where
  description : Option String := none
  content : Content := []

/-- What a method of a path does. -/
structure Operation where
  summary : Option String := none
  description : Option String := none
  operationId : Option String := none
  deprecated : Bool := false
  parameters : List (OrReference Parameter) := []
  requestBody : Option (OrReference RequestBody) := none
  responses : List (String × OrReference Response) := []

/-- The methods of a path, in the order in which their operations are written. -/
inductive Method
  | get
  | put
  | post
  | delete
  | options
  | head
  | patch
  | trace
  deriving DecidableEq, Repr

/-- All methods in order. -/
def Method.all : List Method :=
  [.get, .put, .post, .delete, .options, .head, .patch, .trace]

/-- The key of a method. -/
def Method.key : Method → String
  | .get => "get"
  | .put => "put"
  | .post => "post"
  | .delete => "delete"
  | .options => "options"
  | .head => "head"
  | .patch => "patch"
  | .trace => "trace"

/-- A path: its operations in order of their methods, and the parameters that
all of them share. -/
structure PathItem where
  operations : List (Method × Operation) := []
  parameters : List (OrReference Parameter) := []

/-- The components of a document, by section. -/
structure Components where
  schemas : List (String × Node) := []
  responses : List (String × OrReference Response) := []
  parameters : List (String × OrReference Parameter) := []
  requestBodies : List (String × OrReference RequestBody) := []

/-- An API description. -/
structure Description where
  paths : List (String × PathItem) := []
  components : Components := {}

/-- The entries of the mapping under a key. -/
def mappingAt (entries : List (String × Value)) (key : String) : List (String × Value) :=
  ((entries.lookup key).bind Value.mapping?).getD []

/-- The items of the list under a key. -/
def itemsAt (entries : List (String × Value)) (key : String) : List Value :=
  ((entries.lookup key).bind Value.list?).getD []

/-- An object or a reference, given how the entries of an object are read. -/
def OrReference.ofValue
    {α : Type}
    (read : List (String × Value) → α)
    (value : Value) :
    OrReference α :=
  let entries := value.mapping?.getD []
  if (entries.lookup "$ref").isSome then .reference (.ofEntries entries)
  else .inline (read entries)

/-- Read every value of a mapping. -/
def readMap
    {α : Type}
    (read : Value → α)
    (entries : List (String × Value)) :
    List (String × α) :=
  entries.map fun entry => (entry.1, read entry.2)

/-- The representations under the key `content`. -/
def Content.ofEntries (entries : List (String × Value)) : Content :=
  readMap (fun value => ⟨Node.at (value.mapping?.getD []) "schema"⟩)
    (mappingAt entries "content")

/-- The parameter of an object. -/
def Parameter.ofEntries (entries : List (String × Value)) : Parameter :=
  { name := (textAt entries "name").getD ""
    location := (textAt entries "in").getD ""
    description := textAt entries "description"
    required := flagAt entries "required"
    deprecated := flagAt entries "deprecated"
    schema := Node.at entries "schema"
    content := Content.ofEntries entries }

/-- The request body of an object. -/
def RequestBody.ofEntries (entries : List (String × Value)) : RequestBody :=
  { description := textAt entries "description"
    content := Content.ofEntries entries
    required := flagAt entries "required" }

/-- The response of an object. -/
def Response.ofEntries (entries : List (String × Value)) : Response :=
  { description := textAt entries "description"
    content := Content.ofEntries entries }

/-- The operation of an object. -/
def Operation.ofEntries (entries : List (String × Value)) : Operation :=
  { summary := textAt entries "summary"
    description := textAt entries "description"
    operationId := textAt entries "operationId"
    deprecated := flagAt entries "deprecated"
    parameters := (itemsAt entries "parameters").map (.ofValue Parameter.ofEntries)
    requestBody :=
      match entries.lookup "requestBody" with
      | some (.mapping inner) => some (.ofValue RequestBody.ofEntries (.mapping inner))
      | _ => none
    responses := readMap (.ofValue Response.ofEntries) (mappingAt entries "responses") }

/-- The path item of an object. -/
def PathItem.ofEntries (entries : List (String × Value)) : PathItem :=
  { operations := Method.all.filterMap fun method =>
      match entries.lookup method.key with
      | some (.mapping inner) => some (method, Operation.ofEntries inner)
      | _ => none
    parameters := (itemsAt entries "parameters").map (.ofValue Parameter.ofEntries) }

/-- The components of an object. -/
def Components.ofEntries (entries : List (String × Value)) : Components :=
  { schemas := (Node.mapAt entries "schemas").getD []
    responses := readMap (.ofValue Response.ofEntries) (mappingAt entries "responses")
    parameters := readMap (.ofValue Parameter.ofEntries) (mappingAt entries "parameters")
    requestBodies :=
      readMap (.ofValue RequestBody.ofEntries) (mappingAt entries "requestBodies") }

/-- The API description of a document in normal form. -/
def Description.ofEntries (entries : List (String × Value)) : Description :=
  { paths := readMap (fun value => PathItem.ofEntries (value.mapping?.getD []))
      (mappingAt entries "paths")
    components := Components.ofEntries (mappingAt entries "components") }

/-- The API description of a value in normal form. -/
def Description.ofValue (value : Value) : Description :=
  Description.ofEntries (value.mapping?.getD [])

end Document
end ApiTypings
