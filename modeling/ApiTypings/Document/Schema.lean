import ApiTypings.Value

/-!
# Schemas

The part of a schema that its type depends on, read from the normal form of a
schema object. Whatever else a schema object holds has no place here.
-/

namespace ApiTypings
namespace Document

/-- A pointer to another object of the document. -/
structure Reference where
  target : String
  description : Option String := none
  deriving DecidableEq, Repr

/-- An object, or a reference to one. -/
inductive OrReference (α : Type)
  | reference (reference : Reference)
  | inline (object : α)

/-- What a schema says about keys that are not among its properties. -/
inductive Additional (ν : Type)
  | allowed (flag : Bool)
  | typed (node : ν)

/-- A schema object. -/
structure Schema where
  description : Option String := none
  types : List String := []
  enum : Option (List Value) := none
  const : Option Value := none
  default : Option Value := none
  sample : Option Value := none
  items : Option (OrReference Schema) := none
  minItems : Option Int := none
  maxItems : Option Int := none
  properties : Option (List (String × OrReference Schema)) := none
  required : List String := []
  additional : Option (Additional (OrReference Schema)) := none
  allOf : Option (List (OrReference Schema)) := none
  oneOf : Option (List (OrReference Schema)) := none
  anyOf : Option (List (OrReference Schema)) := none
  negated : Option (OrReference Schema) := none
  nullable : Bool := false
  deprecated : Bool := false

/-- A schema or a reference in schema position. -/
abbrev Node := OrReference Schema

namespace Schema

/-- Whether a schema is composed of others. -/
def isComposed (schema : Schema) : Bool :=
  schema.allOf.isSome || schema.oneOf.isSome || schema.anyOf.isSome || schema.negated.isSome

/-- Whether `null` is among the declared types. -/
def declaresNull (schema : Schema) : Bool :=
  schema.types.contains "null"

end Schema

/-- The text under a key of an object in normal form. -/
def textAt (entries : List (String × Value)) (key : String) : Option String :=
  (entries.lookup key).bind Value.text?

/-- Whether the flag under a key is set. -/
def flagAt (entries : List (String × Value)) (key : String) : Bool :=
  match entries.lookup key with
  | some (.bool flag) => flag
  | _ => false

/-- The integer under a key. -/
def integerAt (entries : List (String × Value)) (key : String) : Option Int :=
  match entries.lookup key with
  | some (.int number) => some number
  | _ => none

/-- The texts under a key: those of a list, or a single one. -/
def textsAt (entries : List (String × Value)) (key : String) : List String :=
  match entries.lookup key with
  | some (.text content) => [content]
  | some (.list items) => items.filterMap Value.text?
  | _ => []

/-- The reference of an object with a `$ref` key. -/
def Reference.ofEntries (entries : List (String × Value)) : Reference :=
  { target := (textAt entries "$ref").getD ""
    description := textAt entries "description" }

mutual

/-- The schema or reference of a value. -/
def Node.ofValue (value : Value) : Node :=
  match value with
  | .mapping entries =>
      if (entries.lookup "$ref").isSome then .reference (.ofEntries entries)
      else .inline (Schema.ofEntries entries)
  | _ => .inline {}
termination_by (sizeOf value, 0)

/-- The schema or reference under a key. -/
def Node.at (entries : List (String × Value)) (key : String) : Option Node :=
  match Entries.find? entries key with
  | some ⟨.mapping inner, _⟩ => some (Node.ofValue (.mapping inner))
  | _ => none
termination_by (sizeOf entries, 0)
decreasing_by
  rename_i given
  exact Prod.Lex.left _ _ (Value.sizeOf_lt_of_entry given)

/-- The schemas and references of a list of values. -/
def Node.ofItems (items : List Value) : List Node :=
  match items with
  | [] => []
  | item :: rest => Node.ofValue item :: Node.ofItems rest
termination_by (sizeOf items, 0)

/-- The named schemas and references of a mapping. -/
def Node.ofMap (entries : List (String × Value)) : List (String × Node) :=
  match entries with
  | [] => []
  | (key, value) :: rest => (key, Node.ofValue value) :: Node.ofMap rest
termination_by (sizeOf entries, 0)

/-- The list of schemas under a key. -/
def Node.listAt (entries : List (String × Value)) (key : String) : Option (List Node) :=
  match Entries.find? entries key with
  | some ⟨.list items, _⟩ => some (Node.ofItems items)
  | _ => none
termination_by (sizeOf entries, 0)
decreasing_by
  rename_i given
  have smaller := Value.sizeOf_lt_of_entry given
  simp only [Value.list.sizeOf_spec] at smaller
  exact Prod.Lex.left _ _ (by omega)

/-- The map of schemas under a key. -/
def Node.mapAt (entries : List (String × Value)) (key : String) :
    Option (List (String × Node)) :=
  match Entries.find? entries key with
  | some ⟨.mapping inner, _⟩ => some (Node.ofMap inner)
  | _ => none
termination_by (sizeOf entries, 0)
decreasing_by
  rename_i given
  have smaller := Value.sizeOf_lt_of_entry given
  simp only [Value.mapping.sizeOf_spec] at smaller
  exact Prod.Lex.left _ _ (by omega)

/-- What the entries of a schema object say about further keys. -/
def Additional.ofEntries (entries : List (String × Value)) : Option (Additional Node) :=
  match entries.lookup "additionalProperties" with
  | some (.bool flag) => some (.allowed flag)
  | _ => (Node.at entries "additionalProperties").map .typed
termination_by (sizeOf entries, 1)

/-- The schema of the entries of a schema object. -/
def Schema.ofEntries (entries : List (String × Value)) : Schema :=
  { description := textAt entries "description"
    types := textsAt entries "type"
    enum := (entries.lookup "enum").bind Value.list?
    const := entries.lookup "const"
    default := entries.lookup "default"
    sample := entries.lookup "example"
    items := Node.at entries "items"
    minItems := integerAt entries "minItems"
    maxItems := integerAt entries "maxItems"
    properties := Node.mapAt entries "properties"
    required := textsAt entries "required"
    additional := Additional.ofEntries entries
    allOf := Node.listAt entries "allOf"
    oneOf := Node.listAt entries "oneOf"
    anyOf := Node.listAt entries "anyOf"
    negated := Node.at entries "not"
    nullable := flagAt entries "nullable"
    deprecated := flagAt entries "deprecated" }
termination_by (sizeOf entries, 2)

end

end Document
end ApiTypings
