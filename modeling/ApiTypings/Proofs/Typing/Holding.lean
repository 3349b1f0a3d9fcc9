import ApiTypings.Proofs.Typing.Invariants
import ApiTypings.Typing.Paths

/-!
# The schemas of a document

Every schema whose type is asked for stands somewhere in the document: references
lead to components, and everything else is a part of what was asked for before.
-/

namespace ApiTypings
namespace Document

/-- The object, if it is no reference. -/
def OrReference.object? {α : Type} : OrReference α → Option α
  | .reference _ => none
  | .inline object => some object

namespace Description

variable (description : Description)

/-- All operations of a document. -/
def operations : List Operation :=
  description.paths.flatMap fun entry => entry.2.operations.map Prod.snd

/-- All parameters that stand in a document. -/
def parameters : List Parameter :=
  (description.components.parameters.map Prod.snd ++
    description.paths.flatMap (fun entry => entry.2.parameters) ++
    description.operations.flatMap Operation.parameters).filterMap OrReference.object?

/-- All request bodies that stand in a document. -/
def requestBodies : List RequestBody :=
  (description.components.requestBodies.map Prod.snd ++
    description.operations.flatMap fun operation => operation.requestBody.toList).filterMap
      OrReference.object?

/-- All responses that stand in a document. -/
def responses : List Response :=
  (description.components.responses.map Prod.snd ++
    description.operations.flatMap fun operation => operation.responses.map Prod.snd).filterMap
      OrReference.object?

/-- All representations that stand in a document. -/
def contents : List Content :=
  description.parameters.map Parameter.content ++
    description.requestBodies.map RequestBody.content ++
    description.responses.map Response.content

/-- The schemas and references that stand in a document outside of schemas. -/
def nodes : List Node :=
  description.components.schemas.map Prod.snd ++
    description.parameters.filterMap Parameter.schema ++
    description.contents.flatMap fun content => content.filterMap fun entry => entry.2.schema

/-- The schemas and references that stand in a document outside of component schemas. -/
def surfaceNodes : List Node :=
  description.parameters.filterMap Parameter.schema ++
    description.contents.flatMap fun content => content.filterMap fun entry => entry.2.schema

/-- What stands where a parameter is expected. -/
def parameterNodes : List (OrReference Parameter) :=
  description.components.parameters.map Prod.snd ++
    description.paths.flatMap (fun entry => entry.2.parameters) ++
    description.operations.flatMap Operation.parameters

/-- What stands where a request body is expected. -/
def requestBodyNodes : List (OrReference RequestBody) :=
  description.components.requestBodies.map Prod.snd ++
    description.operations.flatMap fun operation => operation.requestBody.toList

/-- What stands where a response is expected. -/
def responseNodes : List (OrReference Response) :=
  description.components.responses.map Prod.snd ++
    description.operations.flatMap fun operation => operation.responses.map Prod.snd

/-- A schema stands somewhere in a document. -/
inductive Holds : Schema → Prop
  | node {schema : Schema} (listed : .inline schema ∈ description.nodes) : Holds schema
  | part
      {outer schema : Schema}
      (whole : Holds outer)
      (member : .inline schema ∈ outer.parts) :
      Holds schema

/-- A node is a reference, or a schema that stands in a document. -/
def HoldsNode (node : Node) : Prop :=
  ∀ schema, node = .inline schema → description.Holds schema

variable {description}

theorem holdsNode_reference (reference : Reference) :
    description.HoldsNode (.reference reference) := by
  intro schema same
  contradiction

theorem HoldsNode.part
    {schema : Schema}
    (held : description.HoldsNode (.inline schema))
    {part : Node}
    (member : part ∈ schema.parts) :
    description.HoldsNode part := by
  rintro inner rfl
  exact .part (held schema rfl) member

theorem holdsNode_of_mem {node : Node} (listed : node ∈ description.nodes) :
    description.HoldsNode node := by
  rintro schema rfl
  exact .node listed

theorem mem_nodes_of_component
    {node : Node}
    (listed : node ∈ description.components.schemas.map Prod.snd) :
    node ∈ description.nodes :=
  List.mem_append_left _ (List.mem_append_left _ listed)

theorem mem_nodes_of_surface {node : Node} (listed : node ∈ description.surfaceNodes) :
    node ∈ description.nodes := by
  unfold nodes
  rw [List.append_assoc]
  exact List.mem_append_right _ listed

theorem mem_surfaceNodes_of_parameter
    {parameter : Parameter}
    (listed : parameter ∈ description.parameters)
    {node : Node}
    (given : parameter.schema = some node) :
    node ∈ description.surfaceNodes := by
  apply List.mem_append_left
  exact List.mem_filterMap.mpr ⟨parameter, listed, given⟩

theorem holdsNode_of_parameter
    {parameter : Parameter}
    (listed : parameter ∈ description.parameters)
    {node : Node}
    (given : parameter.schema = some node) :
    description.HoldsNode node :=
  holdsNode_of_mem (mem_nodes_of_surface (mem_surfaceNodes_of_parameter listed given))

theorem mem_contents_of_parameter
    {parameter : Parameter}
    (listed : parameter ∈ description.parameters) :
    parameter.content ∈ description.contents :=
  List.mem_append_left _ (List.mem_append_left _ (List.mem_map_of_mem listed))

theorem mem_contents_of_requestBody
    {body : RequestBody}
    (listed : body ∈ description.requestBodies) :
    body.content ∈ description.contents :=
  List.mem_append_left _ (List.mem_append_right _ (List.mem_map_of_mem listed))

theorem mem_contents_of_response
    {response : Response}
    (listed : response ∈ description.responses) :
    response.content ∈ description.contents :=
  List.mem_append_right _ (List.mem_map_of_mem listed)

theorem mem_surfaceNodes_of_content
    {content : Content}
    (listed : content ∈ description.contents)
    {entry : String × MediaType}
    (member : entry ∈ content)
    {node : Node}
    (given : entry.2.schema = some node) :
    node ∈ description.surfaceNodes := by
  apply List.mem_append_right
  refine List.mem_flatMap.mpr ⟨content, listed, ?_⟩
  exact List.mem_filterMap.mpr ⟨entry, member, given⟩

theorem holdsNode_of_content
    {content : Content}
    (listed : content ∈ description.contents)
    {entry : String × MediaType}
    (member : entry ∈ content)
    {node : Node}
    (given : entry.2.schema = some node) :
    description.HoldsNode node :=
  holdsNode_of_mem (mem_nodes_of_surface (mem_surfaceNodes_of_content listed member given))

/-! ## Operations stand in the document -/

section Operations

variable
    {path : String × PathItem}
    (onPath : path ∈ description.paths)
    {method : Method × Operation}
    (onItem : method ∈ path.2.operations)

include onPath onItem

theorem mem_operations : method.2 ∈ description.operations :=
  List.mem_flatMap.mpr ⟨path, onPath, List.mem_map_of_mem onItem⟩

/-- The parameters of a path and of an operation. -/
theorem mem_parameterNodes_of_operation
    {node : OrReference Parameter}
    (member : node ∈ path.2.parameters ++ method.2.parameters) :
    node ∈ description.parameterNodes := by
  rcases List.mem_append.mp member with shared | own
  · apply List.mem_append_left
    apply List.mem_append_right
    exact List.mem_flatMap.mpr ⟨path, onPath, shared⟩
  · apply List.mem_append_right
    exact List.mem_flatMap.mpr ⟨method.2, mem_operations onPath onItem, own⟩

theorem mem_requestBodyNodes_of_operation
    {node : OrReference RequestBody}
    (given : method.2.requestBody = some node) :
    node ∈ description.requestBodyNodes := by
  apply List.mem_append_right
  refine List.mem_flatMap.mpr ⟨method.2, mem_operations onPath onItem, ?_⟩
  exact Option.mem_toList.mpr given

theorem mem_responseNodes_of_operation
    {entry : String × OrReference Response}
    (member : entry ∈ method.2.responses) :
    entry.2 ∈ description.responseNodes := by
  apply List.mem_append_right
  refine List.mem_flatMap.mpr ⟨method.2, mem_operations onPath onItem, ?_⟩
  exact List.mem_map_of_mem member

end Operations

/-! ## What stands inline stands in the document -/

theorem mem_parameters
    {parameter : Parameter}
    (expected : .inline parameter ∈ description.parameterNodes) :
    parameter ∈ description.parameters :=
  List.mem_filterMap.mpr ⟨_, expected, rfl⟩

theorem mem_requestBodies
    {body : RequestBody}
    (expected : .inline body ∈ description.requestBodyNodes) :
    body ∈ description.requestBodies :=
  List.mem_filterMap.mpr ⟨_, expected, rfl⟩

theorem mem_responses
    {response : Response}
    (expected : .inline response ∈ description.responseNodes) :
    response ∈ description.responses :=
  List.mem_filterMap.mpr ⟨_, expected, rfl⟩

end Description

end Document

namespace Typing

open Component Document

variable {context : Context}

/-! ## Components stand in the document -/

/-- The object of a component stands in a document. -/
def HoldsTarget (description : Description) : Target → Prop
  | .schema schema => .inline schema ∈ description.nodes
  | .response response => response ∈ description.responses
  | .parameter parameter => parameter ∈ description.parameters
  | .requestBody body => body ∈ description.requestBodies

theorem exists_of_mem_entries
    {α : Type}
    {change : α → Target}
    {entries : List (String × OrReference α)}
    {name : String}
    {target : Target}
    (listed : (name, .inline target) ∈
      entries.map fun entry => (entry.1, OrReference.map change entry.2)) :
    ∃ object, .inline object ∈ entries.map Prod.snd ∧ target = change object := by
  obtain ⟨⟨key, component⟩, member, same⟩ := List.mem_map.mp listed
  simp only [Prod.mk.injEq] at same
  cases component with
  | reference reference => exact absurd same.2 (by simp [OrReference.map])
  | inline object =>
      have equal : change object = target := OrReference.inline.inj same.2
      exact ⟨object, List.mem_map.mpr ⟨(key, .inline object), member, rfl⟩, equal.symm⟩

theorem holdsTarget_of_get?
    {catalog : Catalog}
    {pointer : Pointer}
    {target : Target}
    (found : catalog.get? pointer = some (.inline target)) :
    HoldsTarget catalog.description target := by
  have listed := Catalog.get?_mem found
  unfold Catalog.entries at listed
  dsimp only at listed
  split at listed
  · obtain ⟨schema, member, rfl⟩ := exists_of_mem_entries listed
    exact List.mem_append_left _ (List.mem_append_left _ member)
  · obtain ⟨response, member, rfl⟩ := exists_of_mem_entries listed
    exact List.mem_filterMap.mpr ⟨_, List.mem_append_left _ member, rfl⟩
  · obtain ⟨parameter, member, rfl⟩ := exists_of_mem_entries listed
    refine List.mem_filterMap.mpr ⟨.inline parameter, ?_, rfl⟩
    exact List.mem_append_left _ (List.mem_append_left _ member)
  · obtain ⟨body, member, rfl⟩ := exists_of_mem_entries listed
    exact List.mem_filterMap.mpr ⟨_, List.mem_append_left _ member, rfl⟩

/-- What a reference in schema position is replaced by stands in the document. -/
theorem holdsNode_of_refer
    {stack : List Pointer}
    {reference : String}
    {site : Site}
    (referred : context.refer stack reference = .ok (.inlined site)) :
    context.catalog.description.HoldsNode site.node := by
  obtain ⟨_, _, parameter, _, _, _, found, reached, given, _, rfl⟩ := refer_inlined_cases referred
  obtain ⟨place, stands⟩ := get?_of_target found reached
  exact Description.holdsNode_of_parameter (holdsTarget_of_get? stands) given

/-! ## Sites stand in the document -/

/-- Standing in the document is kept from a type to the types that it asks for. -/
theorem invariant_holdsNode (context : Context) :
    Task.Invariant context context.catalog.description.HoldsNode
      context.catalog.description.HoldsNode where
  inlined _ referred := holdsNode_of_refer referred
  part held member := held.part member
  branch held given member := held.part (Schema.mem_parts_of_allOf given member)
  followed _ _ _ := Description.holdsNode_reference _
  opened _ _ found :=
    Description.holdsNode_of_mem (holdsTarget_of_get? (Catalog.get?_of_find found))
  own held := held

end Typing
end ApiTypings
