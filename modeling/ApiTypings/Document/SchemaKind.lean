import ApiTypings.Options

/-!
# Kinds of schemas

Which schemas admit `null`, which are plain objects, and which merge others. The
parts of a schema are smaller than the schema.
-/

namespace ApiTypings
namespace Document

namespace Schema

/-- Whether a schema says anything about the members of an object. -/
def hasObjectKeywords (schema : Schema) : Bool :=
  schema.properties.isSome || schema.additional.isSome || !schema.required.isEmpty

/-- Whether the members that a schema speaks of can be written. -/
def hasMembers (schema : Schema) : Bool :=
  !(schema.properties.getD []).isEmpty || schema.additional.isSome

/-- Whether a schema admits `null`. -/
def isNullable (options : Options) (schema : Schema) : Bool :=
  schema.nullable || schema.declaresNull ||
    (!options.defaultNonNullable && schema.default matches some .null)

/-- Whether a schema is an object with constraints on its members only. -/
def isPlainObject (schema : Schema) : Bool :=
  !schema.isComposed && schema.enum.isNone && schema.const.isNone && !schema.nullable &&
    !schema.declaresNull &&
    if schema.types.isEmpty then schema.hasObjectKeywords else schema.types == ["object"]

/-- Whether a schema is composed by `allOf` only. -/
def isMerge (schema : Schema) : Bool :=
  schema.allOf.isSome && schema.oneOf.isNone && schema.anyOf.isNone && schema.negated.isNone

variable {schema : Schema} {node : Node} {nodes : List Node}

/-- The items of a schema are smaller than the schema. -/
theorem sizeOf_lt_of_items (given : schema.items = some node) :
    sizeOf node < sizeOf schema := by
  cases schema
  simp only at given
  subst given
  simp only [mk.sizeOf_spec, Option.some.sizeOf_spec]
  omega

/-- A branch of `allOf` is smaller than the schema. -/
theorem sizeOf_lt_of_allOf (given : schema.allOf = some nodes) (member : node ∈ nodes) :
    sizeOf node < sizeOf schema := by
  have smaller := List.sizeOf_lt_of_mem member
  cases schema
  simp only at given
  subst given
  simp only [mk.sizeOf_spec, Option.some.sizeOf_spec]
  omega

/-- A branch of `oneOf` is smaller than the schema. -/
theorem sizeOf_lt_of_oneOf (given : schema.oneOf = some nodes) (member : node ∈ nodes) :
    sizeOf node < sizeOf schema := by
  have smaller := List.sizeOf_lt_of_mem member
  cases schema
  simp only at given
  subst given
  simp only [mk.sizeOf_spec, Option.some.sizeOf_spec]
  omega

/-- A branch of `anyOf` is smaller than the schema. -/
theorem sizeOf_lt_of_anyOf (given : schema.anyOf = some nodes) (member : node ∈ nodes) :
    sizeOf node < sizeOf schema := by
  have smaller := List.sizeOf_lt_of_mem member
  cases schema
  simp only at given
  subst given
  simp only [mk.sizeOf_spec, Option.some.sizeOf_spec]
  omega

/-- A property is smaller than the schema. -/
theorem sizeOf_lt_of_property
    {name : String}
    (member : (name, node) ∈ schema.properties.getD []) :
    sizeOf node < sizeOf schema := by
  cases schema with
  | mk _ _ _ _ _ _ _ _ _ properties =>
      cases properties with
      | none => simp at member
      | some entries =>
          have smaller := List.sizeOf_lt_of_mem member
          simp only [Option.getD_some, Prod.mk.sizeOf_spec] at smaller
          simp only [mk.sizeOf_spec, Option.some.sizeOf_spec]
          omega

/-- The type of further keys is smaller than the schema. -/
theorem sizeOf_lt_of_additional (given : schema.additional = some (.typed node)) :
    sizeOf node < sizeOf schema := by
  cases schema
  simp only at given
  subst given
  simp only [mk.sizeOf_spec, Option.some.sizeOf_spec, Additional.typed.sizeOf_spec]
  omega

/-- The negated schema is smaller than the schema. -/
theorem sizeOf_lt_of_negated (given : schema.negated = some node) :
    sizeOf node < sizeOf schema := by
  cases schema
  simp only at given
  subst given
  simp only [mk.sizeOf_spec, Option.some.sizeOf_spec]
  omega

end Schema

end Document

end ApiTypings
