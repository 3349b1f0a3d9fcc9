import ApiTypings.Typing.Merge

/-!
# The type of a schema

One step of the recursion looks at a node and asks for the types of sites below
it; the types are those of the steps tied together.
-/

namespace ApiTypings
namespace Typing

open Component Document TypeScript

/-- What a schema without composition describes. -/
inductive Form
  | array
  | object
  | keyword (word : Keyword)
  deriving DecidableEq, Repr

/-- The form of a declared type. -/
def Form.ofName : String → Form
  | "array" => .array
  | "object" => .object
  | "string" => .keyword .string
  | "number" => .keyword .number
  | "integer" => .keyword .number
  | "boolean" => .keyword .boolean
  | "null" => .keyword .null
  | _ => .keyword .unknown

end Typing

namespace Document

open Typing

/-- The forms of a schema: those of the declared types other than `null`, or
`null` if there is no other, or what the other keywords suggest. -/
def Schema.forms (schema : Schema) : List Form :=
  match schema.types.filter (· != "null") with
  | [] =>
      if schema.declaresNull then [.keyword .null]
      else if schema.hasObjectKeywords then [.object]
      else if schema.items.isSome then [.array]
      else [.keyword .unknown]
  | names => names.map Form.ofName

/-- The length of the arrays of a schema, if only one is allowed. -/
def Schema.fixedLength? (schema : Schema) : Option Nat :=
  match schema.minItems, schema.maxItems with
  | some least, some most => if least = most then some least.toNat else none
  | _, _ => none

/-- The least length of the arrays of a schema, if no list has it. -/
def Schema.overlong? (schema : Schema) : Option Int :=
  schema.minItems.filter Decimal.isOverlong

end Document

namespace Typing

open Component Document TypeScript

/-- The type of a constant; nothing is known unless it is a scalar. -/
def constantType (value : Value) : Except Json.WriteError TypeExpr :=
  (TypeExpr.ofScalar value).map fun type => type.getD .unknown

/-- The union of the types of scalar values; nothing is known unless all values
are scalars. -/
def enumType (values : List Value) : Except Json.WriteError TypeExpr :=
  (values.mapM TypeExpr.ofScalar).map fun types =>
    match types.mapM id with
    | some scalars => .unionOf scalars
    | none => .unknown

/-- The type of the arrays of a schema that have one length only. -/
def tupleType (schema : Schema) (item : TypeExpr) (length : Nat) : Traced TypeExpr :=
  match schema.overlong? with
  | some length => ⟨[], .error (.overlong length)⟩
  | none => .done (.tuple item length)

/-- How the types of sites below a site are found. -/
abbrev Recursion (scope : Scope) (site : Site) : Type :=
  (inner : Site) → inner.Below scope site → Traced TypeExpr

/-- The type of a reference. -/
def referenceType
    (context : Context)
    (start : Node)
    (stack : List Pointer)
    (reference : Reference)
    (within : Site.Within (context.scope start) ⟨stack, .reference reference⟩)
    (recurse : Recursion (context.scope start) ⟨stack, .reference reference⟩) :
    Traced TypeExpr :=
  match referred : context.refer stack reference.target with
  | .error error => .fail error
  | .ok (.named name) => .done (.reference name)
  | .ok .unknown => .done .unknown
  | .ok (.inlined site) => recurse site (below_of_refer within referred)

/-- A schema at a site, and how the types of sites below it are found. -/
structure Visit (context : Context) where
  start : Node
  stack : List Pointer
  schema : Schema
  within : Site.Within (context.scope start) ⟨stack, .inline schema⟩
  recurse : Recursion (context.scope start) ⟨stack, .inline schema⟩

namespace Visit

variable {context : Context} (visit : Visit context)

/-- The type of a part of the schema. -/
def partType (part : Node) (member : part ∈ visit.schema.parts) : Traced TypeExpr :=
  visit.recurse ⟨visit.stack, part⟩ (.of_part visit.within member)

/-- The types of several parts in order. -/
def partTypes (parts : List Node) (members : ∀ part ∈ parts, part ∈ visit.schema.parts) :
    Traced (List TypeExpr) :=
  Traced.sequence <| parts.attach.map fun ⟨part, listed⟩ =>
    visit.partType part (members part listed)

/-- The type of the members of which the schema speaks itself. -/
def ownType : Traced TypeExpr :=
  (Body.ofSchema visit.stack visit.schema).type context.options fun site mentioned =>
    visit.recurse site (Body.below_of_mentions visit.within mentioned)

/-- The type of an array. -/
def arrayType : Traced TypeExpr := do
  let item ←
    match given : visit.schema.items with
    | none => Traced.done TypeExpr.unknown
    | some node => visit.partType node (Schema.mem_parts_of_items given)
  match context.options.supportArrayLength, visit.schema.fixedLength? with
  | true, some length => tupleType visit.schema item length
  | _, _ => return .array item

/-- The type of a form. -/
def formType : Form → Traced TypeExpr
  | .array => visit.arrayType
  | .object => visit.ownType
  | .keyword word => .done (.keyword word)

/-- The type of a schema without composition: that of its constant, of its
enumerated values, or of its forms. -/
def plainType : Traced TypeExpr :=
  match visit.schema.const, visit.schema.enum with
  | some value, _ => .ofWritten (constantType value)
  | none, some values => .ofWritten (enumType values)
  | none, none => do
      let types ← Traced.sequence (visit.schema.forms.map visit.formType)
      return .unionOf types

/-- The type of the branches of `allOf` with the object keywords beside them:
one object if all can be merged, and otherwise an intersection. -/
def mergeType (branches : List Node) (given : visit.schema.allOf = some branches) :
    Traced TypeExpr :=
  match taken :
    branchBodies context visit.start visit.stack visit.schema branches visit.within given with
  | .error error => .fail error
  | .ok (some bodies) =>
      if branches.isEmpty && !visit.schema.hasObjectKeywords then .done .unknown
      else
        (Body.merge bodies).type context.options fun site mentioned =>
          visit.recurse site (below_of_branchBodies taken mentioned)
  | .ok none => do
      let types ← visit.partTypes branches fun _ member =>
        Schema.mem_parts_of_allOf given member
      if visit.schema.hasMembers then
        let own ← visit.ownType
        return .intersectionOf (types ++ [own])
      else return .intersectionOf types

/-- The union of the types of some parts. -/
def unionType (parts : List Node) (members : ∀ part ∈ parts, part ∈ visit.schema.parts) :
    Traced TypeExpr :=
  (visit.partTypes parts members).andThen fun types => .done (.unionOf types)

/-- The parts of a composed schema in the order of its keywords. -/
def composedParts : List (Traced TypeExpr) :=
  let merged :=
    match given : visit.schema.allOf with
    | some branches => [visit.mergeType branches given]
    | none => []
  let oneOf :=
    match given : visit.schema.oneOf with
    | some branches =>
        [visit.unionType branches fun _ member => Schema.mem_parts_of_oneOf given member]
    | none => []
  let anyOf :=
    match given : visit.schema.anyOf with
    | some branches =>
        [visit.unionType branches fun _ member => Schema.mem_parts_of_anyOf given member]
    | none => []
  let negation :=
    if visit.schema.negated.isSome then
      [Traced.mk [.approximatedNegation context.location] (.ok .negation)]
    else []
  let own :=
    if visit.schema.allOf.isNone && visit.schema.hasMembers then [visit.ownType] else []
  merged ++ oneOf ++ anyOf ++ negation ++ own

/-- The type of the schema, `null` included if it is nullable. -/
def type : Traced TypeExpr := do
  let type ←
    if visit.schema.isComposed then
      (Traced.sequence visit.composedParts).andThen fun types => .done (.intersectionOf types)
    else visit.plainType
  return if visit.schema.isNullable context.options then type.orNull else type

end Visit

/-- One step of finding the type of a site. -/
def typeStep
    (context : Context)
    (start : Node)
    (site : Site)
    (within : site.Within (context.scope start))
    (recurse : Recursion (context.scope start) site) :
    Traced TypeExpr :=
  match site, within, recurse with
  | ⟨stack, .reference reference⟩, within, recurse =>
      referenceType context start stack reference within recurse
  | ⟨stack, .inline schema⟩, within, recurse =>
      (Visit.mk start stack schema within recurse).type

/-- The type of the node at a site of a scope. -/
def typeAt
    (context : Context)
    (start : Node)
    (site : Site)
    (within : site.Within (context.scope start)) :
    Traced TypeExpr :=
  typeStep context start site within fun inner below =>
    typeAt context start inner below.within
termination_by (site.unopened (context.scope start), sizeOf site.node)
decreasing_by exact below.lex

/-- The type of the node at a site. -/
def typeOf (context : Context) (site : Site) : Traced TypeExpr :=
  typeAt context site.node site (Site.within_start context site.stack site.node)

/-- The type of a node that may be missing. -/
def typeOf? (context : Context) (stack : List Pointer) (node : Option Node) :
    Traced TypeExpr :=
  match node with
  | some node => typeOf context ⟨stack, node⟩
  | none => .done .unknown

end Typing
end ApiTypings
