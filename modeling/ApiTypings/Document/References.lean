import ApiTypings.Document.SchemaKind

/-!
# References in a schema

The nodes that a schema is made of, and the targets of all references in a node,
however deep they stand.
-/

namespace ApiTypings
namespace Document

namespace Schema

/-- The node that further keys have, if the schema gives one. -/
def additionalNode? (schema : Schema) : Option Node :=
  match schema.additional with
  | some (.typed node) => some node
  | _ => none

/-- The nodes that a schema is directly made of. -/
def parts (schema : Schema) : List Node :=
  schema.items.toList ++ (schema.properties.getD []).map Prod.snd ++
    schema.additionalNode?.toList ++ schema.allOf.getD [] ++ schema.oneOf.getD [] ++
    schema.anyOf.getD [] ++ schema.negated.toList

variable {schema : Schema} {node : Node} {nodes : List Node}

/-- The items of a schema are a part of it. -/
theorem mem_parts_of_items (given : schema.items = some node) : node ∈ schema.parts := by
  simp [parts, given]

/-- A property of a schema is a part of it. -/
theorem mem_parts_of_property
    {name : String}
    (member : (name, node) ∈ schema.properties.getD []) :
    node ∈ schema.parts := by
  have listed : node ∈ (schema.properties.getD []).map Prod.snd :=
    List.mem_map.mpr ⟨_, member, rfl⟩
  simp [parts, listed]

/-- The type of further keys is a part of the schema. -/
theorem mem_parts_of_additional (given : schema.additional = some (.typed node)) :
    node ∈ schema.parts := by
  simp [parts, additionalNode?, given]

/-- A branch of `allOf` is a part of the schema. -/
theorem mem_parts_of_allOf (given : schema.allOf = some nodes) (member : node ∈ nodes) :
    node ∈ schema.parts := by
  simp [parts, given, member]

/-- A branch of `oneOf` is a part of the schema. -/
theorem mem_parts_of_oneOf (given : schema.oneOf = some nodes) (member : node ∈ nodes) :
    node ∈ schema.parts := by
  simp [parts, given, member]

/-- A branch of `anyOf` is a part of the schema. -/
theorem mem_parts_of_anyOf (given : schema.anyOf = some nodes) (member : node ∈ nodes) :
    node ∈ schema.parts := by
  simp [parts, given, member]

/-- A part of a schema is smaller than the schema. -/
theorem sizeOf_lt_of_mem_parts (member : node ∈ schema.parts) :
    sizeOf node < sizeOf schema := by
  simp only [parts, List.mem_append, Option.mem_toList, List.mem_map] at member
  rcases member with (((((items | property) | further) | allOf) | oneOf) | anyOf) | negated
  · exact sizeOf_lt_of_items items
  · obtain ⟨⟨name, _⟩, listed, rfl⟩ := property
    exact sizeOf_lt_of_property listed
  · unfold additionalNode? at further
    split at further
    · rename_i given
      rw [Option.some.inj further] at given
      exact sizeOf_lt_of_additional given
    · contradiction
  · cases given : schema.allOf with
    | none => simp [given] at allOf
    | some nodes => exact sizeOf_lt_of_allOf given (by simpa [given] using allOf)
  · cases given : schema.oneOf with
    | none => simp [given] at oneOf
    | some nodes => exact sizeOf_lt_of_oneOf given (by simpa [given] using oneOf)
  · cases given : schema.anyOf with
    | none => simp [given] at anyOf
    | some nodes => exact sizeOf_lt_of_anyOf given (by simpa [given] using anyOf)
  · exact sizeOf_lt_of_negated negated

end Schema

/-- The targets of all references in a node. -/
def Node.references (node : Node) : List String :=
  match node with
  | .reference reference => [reference.target]
  | .inline schema => schema.parts.attach.flatMap fun ⟨part, _⟩ => Node.references part
termination_by sizeOf node
decreasing_by
  rename_i member
  have smaller := Schema.sizeOf_lt_of_mem_parts member
  simp only [OrReference.inline.sizeOf_spec]
  omega

/-- A reference has its target. -/
theorem Node.references_reference (reference : Reference) :
    Node.references (.reference reference) = [reference.target] := by
  rw [Node.references]

/-- A reference in a part of a schema is one in the schema. -/
theorem Node.mem_references_of_part
    {schema : Schema}
    {part : Node}
    {target : String}
    (member : part ∈ schema.parts)
    (occurs : target ∈ Node.references part) :
    target ∈ Node.references (.inline schema) := by
  rw [Node.references]
  exact List.mem_flatMap.mpr ⟨⟨part, member⟩, List.mem_attach _ _, occurs⟩

end Document
end ApiTypings
