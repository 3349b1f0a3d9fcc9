/-!
# Models

The kinds of objects in an API description and in the configuration, as tables
of fields. A field has a key under which it is written, a second spelling that
is accepted too, and the shape of its value.
-/

namespace ApiTypings
namespace Document

/-- The kinds of objects. -/
inductive Model
  | reference
  | info
  | schema
  | mediaType
  | parameter
  | requestBody
  | response
  | operation
  | pathItem
  | components
  | document
  | options
  | job
  | configuration
  deriving DecidableEq, Repr

/-- What a model does with a key that names no field. -/
inductive Unknown
  | kept
  | dropped
  | refused
  deriving DecidableEq, Repr

/-- The form that the value of a field must have. -/
inductive Shape
  /-- Any value. -/
  | any
  /-- A text; a number is read as its text. -/
  | text
  /-- A text, and no number. -/
  | strictText
  | flag
  | integer
  | number
  /-- A boolean or a number. -/
  | flagOrNumber
  /-- A text or a list of texts. -/
  | textOrTexts
  /-- A list of texts; a boolean is read as `null`. -/
  | textsUnlessFlag
  /-- `null` or a value of a shape. -/
  | optional (inner : Shape)
  | list (item : Shape)
  | map (item : Shape)
  /-- A map whose keys that start with `x-` are dropped; `null` is read as the
  empty map. -/
  | extensibleMap (item : Shape)
  | model (model : Model)
  /-- A reference or an object of a model. -/
  | orReference (model : Model)
  /-- A boolean, a reference or a schema. -/
  | flagOrSchema
  deriving Repr

/-- A field of a model. -/
structure Field where
  key : String
  spelling : String
  required : Bool
  shape : Shape
  deriving Repr

/-- A field with one spelling that may be missing. -/
def Field.plain (key : String) (shape : Shape) : Field :=
  ⟨key, key, false, shape⟩

/-- A field with one spelling that may be missing or `null`. -/
def Field.maybe (key : String) (shape : Shape) : Field :=
  ⟨key, key, false, .optional shape⟩

/-- A field with one spelling that must be there. -/
def Field.needed (key : String) (shape : Shape) : Field :=
  ⟨key, key, true, shape⟩

namespace Model

/-- The name of a model in messages. -/
def name : Model → String
  | .reference => "Reference"
  | .info => "Info"
  | .schema => "Schema"
  | .mediaType => "MediaType"
  | .parameter => "Parameter"
  | .requestBody => "RequestBody"
  | .response => "Response"
  | .operation => "Operation"
  | .pathItem => "PathItem"
  | .components => "Components"
  | .document => "OpenAPI"
  | .options => "GeneratorOptions"
  | .job => "DocumentConfig"
  | .configuration => "CodegenConfig"

/-- Descriptions keep what they do not know; of the configuration only the
outermost object is strict. -/
def unknown : Model → Unknown
  | .options => .dropped
  | .job => .dropped
  | .configuration => .refused
  | _ => .kept

/-- The fields of a schema. -/
def schemaFields : List Field := [
  .maybe "title" .text,
  .maybe "description" .text,
  .maybe "type" .textOrTexts,
  .maybe "format" .text,
  .maybe "enum" (.list .any),
  .plain "const" .any,
  .plain "default" .any,
  .plain "example" .any,
  .maybe "minimum" .number,
  .maybe "maximum" .number,
  .maybe "exclusiveMinimum" .flagOrNumber,
  .maybe "exclusiveMaximum" .flagOrNumber,
  .maybe "multipleOf" .number,
  .maybe "minLength" .integer,
  .maybe "maxLength" .integer,
  .maybe "pattern" .text,
  .maybe "items" (.orReference .schema),
  .maybe "minItems" .integer,
  .maybe "maxItems" .integer,
  .maybe "uniqueItems" .flag,
  .maybe "properties" (.map (.orReference .schema)),
  .maybe "required" .textsUnlessFlag,
  .maybe "additionalProperties" .flagOrSchema,
  .maybe "minProperties" .integer,
  .maybe "maxProperties" .integer,
  .maybe "allOf" (.list (.orReference .schema)),
  .maybe "oneOf" (.list (.orReference .schema)),
  .maybe "anyOf" (.list (.orReference .schema)),
  ⟨"not", "not_", false, .optional (.orReference .schema)⟩,
  .maybe "nullable" .flag,
  .maybe "readOnly" .flag,
  .maybe "writeOnly" .flag,
  .maybe "deprecated" .flag]

/-- An emission option, whose second spelling joins its words by underscores. -/
def optionField (key spelling : String) : Field :=
  ⟨key, spelling, false, .flag⟩

/-- The emission options. -/
def optionFields : List Field := [
  optionField "alphabetize" "alphabetize",
  optionField "immutable" "immutable",
  optionField "exportType" "export_type",
  optionField "defaultNonNullable" "default_non_nullable",
  optionField "additionalProperties" "additional_properties",
  optionField "pathParamsAsTypes" "path_params_as_types",
  optionField "supportArrayLength" "support_array_length",
  optionField "header" "header",
  optionField "includeDescriptions" "include_descriptions",
  optionField "includeExamples" "include_examples"]

/-- The fields of a model, in the order in which their issues are listed. -/
def fields : Model → List Field
  | .reference => [
      ⟨"$ref", "ref", true, .text⟩,
      .maybe "summary" .text,
      .maybe "description" .text]
  | .info => [
      .maybe "title" .text,
      .maybe "version" .text,
      .maybe "description" .text]
  | .schema => schemaFields
  | .mediaType => [
      ⟨"schema", "schema_", false, .optional (.orReference .schema)⟩,
      .plain "example" .any]
  | .parameter => [
      .needed "name" .text,
      ⟨"in", "in_", true, .text⟩,
      .maybe "description" .text,
      .maybe "required" .flag,
      .maybe "deprecated" .flag,
      ⟨"schema", "schema_", false, .optional (.orReference .schema)⟩,
      .maybe "content" (.map (.model .mediaType)),
      .plain "example" .any]
  | .requestBody => [
      .maybe "description" .text,
      .plain "content" (.map (.model .mediaType)),
      .maybe "required" .flag]
  | .response => [
      .maybe "description" .text,
      .maybe "content" (.map (.model .mediaType))]
  | .operation => [
      .maybe "tags" (.list .text),
      .maybe "summary" .text,
      .maybe "description" .text,
      .maybe "operationId" .text,
      .maybe "parameters" (.list (.orReference .parameter)),
      .maybe "requestBody" (.orReference .requestBody),
      .plain "responses" (.map (.orReference .response)),
      .maybe "deprecated" .flag]
  | .pathItem => [
      .maybe "summary" .text,
      .maybe "description" .text,
      .maybe "get" (.model .operation),
      .maybe "put" (.model .operation),
      .maybe "post" (.model .operation),
      .maybe "delete" (.model .operation),
      .maybe "options" (.model .operation),
      .maybe "head" (.model .operation),
      .maybe "patch" (.model .operation),
      .maybe "trace" (.model .operation),
      .maybe "parameters" (.list (.orReference .parameter))]
  | .components => [
      .maybe "schemas" (.map (.orReference .schema)),
      .maybe "responses" (.map (.orReference .response)),
      .maybe "parameters" (.map (.orReference .parameter)),
      .maybe "requestBodies" (.map (.orReference .requestBody)),
      .maybe "securitySchemes" (.map .any)]
  | .document => [
      .maybe "openapi" .text,
      .maybe "info" (.model .info),
      .maybe "servers" (.list .any),
      .plain "paths" (.extensibleMap (.model .pathItem)),
      .maybe "components" (.model .components),
      .maybe "security" (.list .any),
      .maybe "tags" (.list .any)]
  | .options => optionFields
  | .job => [
      .needed "source" .strictText,
      .plain "output" .strictText,
      .plain "options" (.model .options)]
  | .configuration => [
      .needed "documents" (.list (.model .job)),
      .plain "verbose" .flag]

end Model

end Document
end ApiTypings
