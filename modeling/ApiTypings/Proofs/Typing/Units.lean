import ApiTypings.Proofs.Typing.Obstacles
import ApiTypings.Proofs.Typing.UncommentedPaths
import ApiTypings.Typing.Declarations

/-!
# The units of a document

The module of a document is made of units: the operations of all paths, and the component
schemas. It is written if all units are, and otherwise fails as the first unit does that
cannot be written. A unit stops at what its types and its references stop at.
-/

namespace ApiTypings
namespace Typing

open Component Document TypeScript

/-! ## The first failure -/

theorem findSome?_flatMap
    {α β γ : Type}
    (parts : α → List β)
    (found? : β → Option γ)
    (items : List α) :
    (items.flatMap parts).findSome? found? =
      items.findSome? fun item => (parts item).findSome? found? := by
  induction items with
  | nil => rfl
  | cons item rest hypothesis =>
      rw [List.flatMap_cons, List.findSome?_append, hypothesis, List.findSome?_cons]
      cases (parts item).findSome? found? <;> rfl

namespace Traced

variable {α β : Type}

/-- What interrupts a computation, if anything does. -/
def failure? (computation : Traced α) : Option Interruption :=
  match computation.result with
  | .error interruption => some interruption
  | .ok _ => none

theorem failure?_eq_some_iff {computation : Traced α} {interruption : Interruption} :
    computation.failure? = some interruption ↔ computation.result = .error interruption := by
  unfold failure?
  cases computation.result <;> simp

theorem failure?_bind (first : Traced α) (next : α → Traced β) :
    (first >>= next).failure? =
      match first.result with
      | .error interruption => some interruption
      | .ok value => (next value).failure? := by
  unfold failure?
  rw [result_bind]
  cases first.result <;> rfl

/-- What cannot be interrupted adds no failure. -/
theorem failure?_bind_of_safe
    {next : α → Traced β}
    (safe : ∀ value, (next value).failure? = none)
    (first : Traced α) :
    (first >>= next).failure? = first.failure? := by
  rw [failure?_bind]
  unfold failure? at safe ⊢
  cases first.result with
  | error interruption => rfl
  | ok value => exact safe value

/-- Computations in order fail as the first one does that fails. -/
theorem failure?_sequence (computations : List (Traced α)) :
    (sequence computations).failure? = computations.findSome? failure? := by
  induction computations with
  | nil => rfl
  | cons first rest hypothesis =>
      have step : (sequence (first :: rest)).failure? =
          (first >>= fun value => sequence rest >>= fun values => pure (value :: values)).failure? :=
        rfl
      have others (value : α) :
          (sequence rest >>= fun values => pure (value :: values)).failure? =
            rest.findSome? failure? :=
        (failure?_bind_of_safe (fun _ => rfl) _).trans hypothesis
      rw [step, failure?_bind, List.findSome?_cons]
      simp only [others]
      unfold failure?
      cases first.result <;> rfl

end Traced

/-! ## Units -/

/-- A unit of a document: an operation of a path, or a component schema with its pointer
and the name of its declaration. -/
inductive DocumentUnit
  | operation (path : String) (item : PathItem) (method : Method × Operation)
  | schema (entry : Pointer × String × Node)

namespace DocumentUnit

/-- The unit, as errors name it. -/
def location : DocumentUnit → String
  | .operation path _ method => operationLocation path method.1
  | .schema entry => entry.1.text

/-- Why a unit cannot be written, if so. -/
def failure? (catalog : Catalog) (options : Options) : DocumentUnit → Option Interruption
  | .operation path item method => (operationMember catalog options path item method).failure?
  | .schema entry => (schemaDeclaration catalog options entry).failure?

end DocumentUnit

/-- The units of a document: the operations of its paths in order, and then its component
schemas in order. -/
def documentUnits (catalog : Catalog) : List DocumentUnit :=
  (catalog.description.paths.flatMap fun path =>
      path.2.operations.map (.operation path.1 path.2)) ++
    catalog.declarations.map .schema

section Failure

variable (catalog : Catalog) (options : Options)

theorem failure?_pathMember (path : String × PathItem) :
    (pathMember catalog options path).failure? =
      (path.2.operations.map (.operation path.1 path.2)).findSome?
        (DocumentUnit.failure? catalog options) := by
  unfold pathMember
  split
  · rename_i none
    rw [none]
    rfl
  · rw [Traced.failure?_bind_of_safe (fun _ => rfl), Traced.failure?_sequence, List.findSome?_map,
      List.findSome?_map]
    rfl

theorem failure?_pathsDeclaration :
    (pathsDeclaration catalog options).failure? =
      (catalog.description.paths.flatMap fun path =>
        path.2.operations.map (.operation path.1 path.2)).findSome?
          (DocumentUnit.failure? catalog options) := by
  unfold pathsDeclaration
  split
  · rename_i none
    rw [none]
    rfl
  · rw [Traced.failure?_bind_of_safe (fun _ => rfl), Traced.failure?_sequence, List.findSome?_map,
      findSome?_flatMap]
    congr 1
    funext path
    exact failure?_pathMember catalog options path

theorem failure?_schemaDeclarations :
    (schemaDeclarations catalog options).failure? =
      (catalog.declarations.map .schema).findSome? (DocumentUnit.failure? catalog options) := by
  unfold schemaDeclarations
  rw [Traced.failure?_bind_of_safe (fun _ => rfl), Traced.failure?_sequence, List.findSome?_map,
    List.findSome?_map]
  rfl

/-- The module fails as the first unit does that cannot be written, and is written if there
is none. -/
theorem failure?_generate :
    (generate catalog options).failure? =
      (documentUnits catalog).findSome? (DocumentUnit.failure? catalog options) := by
  have schemas (paths : Option Declaration) :
      (schemaDeclarations catalog options >>= fun declarations => do
        Traced.report (.generated declarations.length paths.isSome)
        return moduleText options.header (paths.toList ++ declarations)).failure? =
        (catalog.declarations.map .schema).findSome? (DocumentUnit.failure? catalog options) := by
    rw [Traced.failure?_bind_of_safe (fun _ => rfl)]
    exact failure?_schemaDeclarations catalog options
  unfold generate documentUnits
  rw [Traced.failure?_bind, List.findSome?_append, ← failure?_pathsDeclaration]
  simp only [schemas]
  unfold Traced.failure?
  cases (pathsDeclaration catalog options).result <;> rfl

theorem failure?_generateFrom (description : Description) :
    (generateFrom description options).failure? =
      (documentUnits (.ofDescription description)).findSome?
        (DocumentUnit.failure? (.ofDescription description) options) :=
  failure?_generate (.ofDescription description) options

end Failure

/-- A document that fails does so at its first unit that cannot be written. -/
theorem exists_first_of_generateFrom
    {description : Description}
    {options : Options}
    {interruption : Interruption}
    (failed : (generateFrom description options).result = .error interruption) :
    ∃ before unit after, documentUnits (.ofDescription description) = before ++ unit :: after ∧
      unit.failure? (.ofDescription description) options = some interruption ∧
      ∀ earlier ∈ before, earlier.failure? (.ofDescription description) options = none := by
  rw [← Traced.failure?_eq_some_iff, failure?_generateFrom] at failed
  exact List.findSome?_eq_some_iff.mp failed

/-! ## What stops a unit -/

variable {context : Context}

/-- What a unit stops at: obstacles, the types of the nodes of the document, and references
outside of schemas. -/
structure UnitStopping (context : Context) (Stop : Interruption → Prop) : Prop where
  obstacle : ∀ {interruption : Interruption}, context.Obstacle interruption → Stop interruption
  typed : ∀ {node : Node}, node ∈ context.catalog.description.nodes →
    ∀ stack, StopsOnlyAt Stop (typeOf context ⟨stack, node⟩)
  parameters : ∀ {node : OrReference Parameter},
    node ∈ context.catalog.description.parameterNodes →
      StopsOnlyAt Stop (.ofReferred (resolveParameter context node))
  requestBodies : ∀ {node : OrReference RequestBody},
    node ∈ context.catalog.description.requestBodyNodes →
      StopsOnlyAt Stop (.ofReferred (resolveRequestBody context node))
  responses : ∀ {node : OrReference Response},
    node ∈ context.catalog.description.responseNodes →
      StopsOnlyAt Stop (.ofReferred (resolveResponse context node))

namespace UnitStopping

variable {Stop : Interruption → Prop} (stopping : UnitStopping context Stop)

include stopping

theorem contentType
    {content : Content}
    (listed : content ∈ context.catalog.description.contents) :
    StopsOnlyAt Stop (Typing.contentType context content) := by
  unfold Typing.contentType typeOf?
  split
  · rename_i node given
    obtain ⟨media, chosen, schema⟩ := Option.bind_eq_some_iff.mp given
    obtain ⟨name, member⟩ := exists_mem_of_primary? chosen
    have inNodes := Description.mem_surfaceNodes_of_content listed member schema
    exact stopping.typed (Description.mem_nodes_of_surface inNodes) []
  · exact .done _

theorem parameterMember
    {parameter : Parameter}
    (listed : parameter ∈ context.catalog.description.parameters) :
    StopsOnlyAt Stop (Typing.parameterMember context parameter) := by
  have stated : StopsOnlyAt Stop (statedType context parameter) := by
    unfold statedType
    split
    · rename_i given
      have inNodes := Description.mem_surfaceNodes_of_parameter listed given
      exact stopping.typed (Description.mem_nodes_of_surface inNodes) []
    · exact stopping.contentType (Description.mem_contents_of_parameter listed)
  have typed : StopsOnlyAt Stop (parameterType context parameter) := by
    rw [parameterType_eq]
    refine .bind stated ?_
    intro type _
    exact .done _
  obtain ⟨comment, written, _⟩ := isWritten_parameterComment context.options parameter
  refine .bind typed ?_
  intro type _
  rw [written]
  exact .of_ok rfl

theorem placeMember
    {parameters : List Parameter}
    (listed : ∀ parameter ∈ parameters, parameter ∈ context.catalog.description.parameters)
    (place : Place) :
    StopsOnlyAt Stop (Typing.placeMember context parameters place) := by
  unfold Typing.placeMember
  split
  · exact .done _
  · refine .bind (.sequence fun parameter member => ?_) ?_
    · exact stopping.parameterMember (listed parameter (List.mem_of_mem_filter member))
    · intro members _
      exact .done _

section Operation

variable
    {path : String × PathItem}
    (onPath : path ∈ context.catalog.description.paths)
    {method : Method × Operation}
    (onItem : method ∈ path.2.operations)

include onPath onItem

theorem parametersMember :
    StopsOnlyAt Stop (Typing.parametersMember context path.2 method.2) := by
  have expected (node : OrReference Parameter)
      (member : node ∈ path.2.parameters ++ method.2.parameters) :=
    Description.mem_parameterNodes_of_operation onPath onItem member
  refine .bind (.sequence fun node member => stopping.parameters (expected node member)) ?_
  intro resolved finished
  have listed : ∀ parameter ∈ mergeParameters resolved,
      parameter ∈ context.catalog.description.parameters := by
    intro parameter member
    obtain ⟨node, inNodes, found⟩ := exists_left_of_forall₂ (Traced.forall₂_of_sequence finished)
      (mem_of_mem_mergeParameters member)
    exact mem_of_resolveParameter (expected node inNodes) (Traced.ofReferred_eq_ok found)
  have reported (parameter : Parameter) : StopsOnlyAt Stop (reportStray parameter) := by
    unfold reportStray
    split
    · exact .done _
    · exact .of_ok rfl
  refine .bind (.sequence fun parameter _ => reported parameter) ?_
  intro _ _
  refine .bind (.sequence fun place _ => stopping.placeMember listed place) ?_
  intro groups _
  split
  · exact .done _
  · exact .done _

theorem requestBodyMember : StopsOnlyAt Stop (Typing.requestBodyMember context method.2) := by
  unfold Typing.requestBodyMember
  split
  · exact .done _
  · rename_i node given
    have expected := Description.mem_requestBodyNodes_of_operation onPath onItem given
    refine .bind (stopping.requestBodies expected) ?_
    intro body finished
    have listed := mem_of_resolveRequestBody expected (Traced.ofReferred_eq_ok finished)
    refine .bind (stopping.contentType (Description.mem_contents_of_requestBody listed)) ?_
    intro type _
    obtain ⟨comment, written, _⟩ := isWritten_note context.options body.description
    rw [written]
    exact .of_ok rfl

theorem responseMember
    {entry : String × OrReference Response}
    (member : entry ∈ method.2.responses) :
    StopsOnlyAt Stop (Typing.responseMember context entry) := by
  have expected := Description.mem_responseNodes_of_operation onPath onItem member
  rw [responseMember_eq]
  refine .bind (stopping.responses expected) ?_
  intro response finished
  have listed := mem_of_resolveResponse expected (Traced.ofReferred_eq_ok finished)
  have typed : StopsOnlyAt Stop (responseType context response) := by
    unfold responseType
    split
    · exact .done _
    · exact stopping.contentType (Description.mem_contents_of_response listed)
  refine .bind typed ?_
  intro type _
  obtain ⟨comment, written, _⟩ := isWritten_note context.options response.description
  rw [written]
  exact .of_ok rfl

theorem responsesMember : StopsOnlyAt Stop (Typing.responsesMember context method.2) := by
  refine .bind (.sequence fun entry member => stopping.responseMember onPath onItem member) ?_
  intro members _
  exact .done _

end Operation

end UnitStopping

section Unit

variable {catalog : Catalog} {options : Options} {Stop : Interruption → Prop}

theorem stops_operationMember
    {path : String × PathItem}
    (onPath : path ∈ catalog.description.paths)
    {method : Method × Operation}
    (onItem : method ∈ path.2.operations)
    (stopping :
      UnitStopping ⟨catalog, options, some (operationLocation path.1 method.1)⟩ Stop) :
    StopsOnlyAt Stop (operationMember catalog options path.1 path.2 method) := by
  refine .bind (stopping.parametersMember onPath onItem) ?_
  intro parameters _
  refine .bind (stopping.requestBodyMember onPath onItem) ?_
  intro body _
  refine .bind (stopping.responsesMember onPath onItem) ?_
  intro responses _
  obtain ⟨comment, written, _⟩ := isWritten_operationComment options method.2
  rw [written]
  exact .of_ok rfl

theorem stops_schemaDeclaration
    {entry : Pointer × String × Node}
    (declared : entry ∈ catalog.declarations)
    (stopping : UnitStopping ⟨catalog, options, some entry.1.text⟩ Stop) :
    StopsOnlyAt Stop (schemaDeclaration catalog options entry) := by
  obtain ⟨component, listed, rfl⟩ := List.mem_map.mp declared
  have inNodes : component.2 ∈ catalog.description.nodes :=
    Description.mem_nodes_of_component (List.mem_map_of_mem listed)
  have commented : StopsOnlyAt Stop (.ofWritten (declarationComment options component.2)) := by
    unfold declarationComment
    split
    · exact .of_ok rfl
    · rename_i given
      refine (stops_describe ?_).mono stopping.obstacle
      rw [← given]
      exact Description.holdsNode_of_mem inNodes
  refine .bind (stopping.typed inNodes _) ?_
  intro type _
  refine .bind commented ?_
  intro comment _
  exact .of_ok rfl

/-- A unit that cannot be written fails at something that stops its types or its
references. -/
theorem stop_of_failure?
    {unit : DocumentUnit}
    (listed : unit ∈ documentUnits catalog)
    (stopping : UnitStopping ⟨catalog, options, some unit.location⟩ Stop)
    {interruption : Interruption}
    (failed : unit.failure? catalog options = some interruption) :
    Stop interruption := by
  rcases List.mem_append.mp listed with operation | schema
  · obtain ⟨path, onPath, member⟩ := List.mem_flatMap.mp operation
    obtain ⟨method, onItem, rfl⟩ := List.mem_map.mp member
    exact stops_operationMember onPath onItem stopping _ (Traced.failure?_eq_some_iff.mp failed)
  · obtain ⟨entry, declared, rfl⟩ := List.mem_map.mp schema
    exact stops_schemaDeclaration declared stopping _ (Traced.failure?_eq_some_iff.mp failed)

end Unit

end Typing
end ApiTypings
