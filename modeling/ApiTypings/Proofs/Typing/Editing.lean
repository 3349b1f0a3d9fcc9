import ApiTypings.Proofs.Typing.Modularity
import ApiTypings.Proofs.Typing.UncommentedPaths
import ApiTypings.Typing.Declarations

/-!
# Editing a component schema

Replacing a component schema changes no declaration but its own, unless the type of
another one depends on it or what stands under a path is found through it.
-/

namespace ApiTypings
namespace Document

/-- The document with another node for the component schema of a name. -/
def Description.withSchema (description : Description) (key : String) (node : Node) :
    Description :=
  { description with
    components :=
      { description.components with
        schemas := description.components.schemas.map fun entry =>
          (entry.1, if entry.1 = key then node else entry.2) } }

end Document

namespace Typing

open Component Document TypeScript

/-! ## Paths in two catalogs -/

/-- Two catalogs follow the references among some nodes alike. -/
def FollowAlike {α : Type} (one other : Catalog) (nodes : List (OrReference α)) : Prop :=
  ∀ reference, .reference reference ∈ nodes → ∀ location,
    other.follow location [] reference.target = one.follow location [] reference.target

/-- Two catalogs have the same paths, and agree on what stands outside of component
schemas. -/
structure SameSurface (one other : Catalog) : Prop where
  paths : other.description.paths = one.description.paths
  types : ∀ node ∈ one.description.surfaceNodes, ∀ options location,
    typeOf ⟨other, options, location⟩ ⟨[], node⟩ = typeOf ⟨one, options, location⟩ ⟨[], node⟩
  parameters : FollowAlike one other one.description.parameterNodes
  requestBodies : FollowAlike one other one.description.requestBodyNodes
  responses : FollowAlike one other one.description.responseNodes

variable {context : Context} {other : Catalog}

theorem resolveAs_over
    {α : Type}
    {nodes : List (OrReference α)}
    (alike : FollowAlike context.catalog other nodes)
    {node : OrReference α}
    (expected : node ∈ nodes)
    (problem : Problem)
    (pick : Target → Option α) :
    resolveAs (context.over other) problem pick node = resolveAs context problem pick node := by
  cases node with
  | inline object => rfl
  | reference reference =>
      have same : (context.over other).catalog.follow (context.over other).location []
          reference.target = context.catalog.follow context.location [] reference.target :=
        alike reference expected context.location
      simp only [resolveAs, same]
      rfl

section Surface

variable (surface : SameSurface context.catalog other)

include surface

theorem typeOf_over_of_surface
    {node : Node}
    (listed : node ∈ context.catalog.description.surfaceNodes) :
    typeOf (context.over other) ⟨[], node⟩ = typeOf context ⟨[], node⟩ :=
  surface.types node listed context.options context.location

theorem contentType_over
    {content : Content}
    (listed : content ∈ context.catalog.description.contents) :
    contentType (context.over other) content = contentType context content := by
  unfold contentType typeOf?
  split
  · rename_i node given
    obtain ⟨media, chosen, schema⟩ := Option.bind_eq_some_iff.mp given
    obtain ⟨name, member⟩ := exists_mem_of_primary? chosen
    exact typeOf_over_of_surface surface
      (Description.mem_surfaceNodes_of_content listed member schema)
  · rfl

theorem parameterMember_over
    {parameter : Parameter}
    (listed : parameter ∈ context.catalog.description.parameters) :
    parameterMember (context.over other) parameter = parameterMember context parameter := by
  have stated : statedType (context.over other) parameter = statedType context parameter := by
    unfold statedType
    split
    · rename_i given
      exact typeOf_over_of_surface surface
        (Description.mem_surfaceNodes_of_parameter listed given)
    · exact contentType_over surface (Description.mem_contents_of_parameter listed)
  unfold parameterMember
  rw [parameterType_eq, parameterType_eq, stated]
  rfl

theorem placeMember_over
    {parameters : List Parameter}
    (listed : ∀ parameter ∈ parameters, parameter ∈ context.catalog.description.parameters)
    (place : Place) :
    placeMember (context.over other) parameters place = placeMember context parameters place := by
  unfold placeMember
  split
  · rfl
  · have members : (parameters.filter fun parameter => parameter.location == place.key).map
          (parameterMember (context.over other)) =
        (parameters.filter fun parameter => parameter.location == place.key).map
          (parameterMember context) := by
      apply List.map_congr_left
      intro parameter member
      exact parameterMember_over surface (listed parameter (List.mem_of_mem_filter member))
    rw [members]

section Operation

variable
    {path : String × PathItem}
    (onPath : path ∈ context.catalog.description.paths)
    {method : Method × Operation}
    (onItem : method ∈ path.2.operations)

include onPath onItem

theorem parametersMember_over :
    parametersMember (context.over other) path.2 method.2 =
      parametersMember context path.2 method.2 := by
  have expected (node : OrReference Parameter)
      (member : node ∈ path.2.parameters ++ method.2.parameters) :=
    Description.mem_parameterNodes_of_operation onPath onItem member
  have resolved : ((path.2.parameters ++ method.2.parameters).map fun node =>
        Traced.ofReferred (resolveParameter (context.over other) node)) =
      (path.2.parameters ++ method.2.parameters).map fun node =>
        Traced.ofReferred (resolveParameter context node) := by
    apply List.map_congr_left
    intro node member
    exact congrArg Traced.ofReferred (resolveAs_over surface.parameters (expected node member) _ _)
  unfold parametersMember
  dsimp only
  rw [resolved]
  apply Traced.bind_congr
  intro found finished
  have listed : ∀ parameter ∈ mergeParameters found,
      parameter ∈ context.catalog.description.parameters := by
    intro parameter member
    obtain ⟨node, inNodes, single⟩ := exists_left_of_forall₂ (Traced.forall₂_of_sequence finished)
      (mem_of_mem_mergeParameters member)
    exact mem_of_resolveParameter (expected node inNodes) (Traced.ofReferred_eq_ok single)
  have groups : Place.all.map (placeMember (context.over other) (mergeParameters found)) =
      Place.all.map (placeMember context (mergeParameters found)) := by
    apply List.map_congr_left
    intro place _
    exact placeMember_over surface listed place
  rw [groups]

theorem requestBodyMember_over :
    requestBodyMember (context.over other) method.2 = requestBodyMember context method.2 := by
  unfold requestBodyMember
  split
  · rfl
  · rename_i node given
    have expected := Description.mem_requestBodyNodes_of_operation onPath onItem given
    have resolved : resolveRequestBody (context.over other) node =
        resolveRequestBody context node := resolveAs_over surface.requestBodies expected _ _
    rw [resolved]
    apply Traced.bind_congr
    intro body finished
    have listed := mem_of_resolveRequestBody expected (Traced.ofReferred_eq_ok finished)
    rw [contentType_over surface (Description.mem_contents_of_requestBody listed)]
    rfl

theorem responseMember_over
    {entry : String × OrReference Response}
    (member : entry ∈ method.2.responses) :
    responseMember (context.over other) entry = responseMember context entry := by
  have expected := Description.mem_responseNodes_of_operation onPath onItem member
  have resolved : resolveResponse (context.over other) entry.2 =
      resolveResponse context entry.2 := resolveAs_over surface.responses expected _ _
  rw [responseMember_eq, responseMember_eq, resolved]
  apply Traced.bind_congr
  intro response finished
  have listed := mem_of_resolveResponse expected (Traced.ofReferred_eq_ok finished)
  have typed : responseType (context.over other) response = responseType context response := by
    unfold responseType
    rw [contentType_over surface (Description.mem_contents_of_response listed)]
  rw [typed]
  rfl

theorem responsesMember_over :
    responsesMember (context.over other) method.2 = responsesMember context method.2 := by
  have members : method.2.responses.map (responseMember (context.over other)) =
      method.2.responses.map (responseMember context) := by
    apply List.map_congr_left
    intro entry member
    exact responseMember_over surface onPath onItem member
  unfold responsesMember
  rw [members]

end Operation

end Surface

/-- The declaration of all paths is the same in both catalogs. -/
theorem pathsDeclaration_over
    {catalog : Catalog}
    (surface : SameSurface catalog other)
    (options : Options) :
    pathsDeclaration other options = pathsDeclaration catalog options := by
  have operation (path : String × PathItem) (onPath : path ∈ catalog.description.paths)
      (method : Method × Operation) (onItem : method ∈ path.2.operations) :
      operationMember other options path.1 path.2 method =
        operationMember catalog options path.1 path.2 method := by
    let context : Context := ⟨catalog, options, some (operationLocation path.1 method.1)⟩
    have surfaceHere : SameSurface context.catalog other := surface
    have parameters := parametersMember_over surfaceHere onPath onItem
    have requestBody := requestBodyMember_over surfaceHere onPath onItem
    have responses := responsesMember_over surfaceHere onPath onItem
    simp only [Context.over, context] at parameters requestBody responses
    unfold operationMember
    dsimp only
    rw [parameters, requestBody, responses]
  have member (path : String × PathItem) (onPath : path ∈ catalog.description.paths) :
      pathMember other options path = pathMember catalog options path := by
    have members := List.map_congr_left (operation path onPath)
    unfold pathMember
    generalize path.2.operations = operations at members ⊢
    cases operations with
    | nil => rfl
    | cons first rest =>
        dsimp only
        rw [members]
  have members := List.map_congr_left member
  unfold pathsDeclaration
  rw [surface.paths]
  generalize catalog.description.paths = paths at members ⊢
  cases paths with
  | nil => rfl
  | cons first rest =>
      dsimp only
      rw [members]

/-! ## Documents that differ in one component schema -/

section Edit

variable (description : Description) (key : String) (node : Node)

theorem sameOutline_withSchema :
    SameOutline (.ofDescription description) (.ofDescription (description.withSchema key node)) := by
  refine sameOutline_ofDescription ?_ rfl
  intro ofSection
  cases ofSection with
  | schemas =>
      rw [Catalog.keys_schemas, Catalog.keys_schemas]
      simp [Entries.keys, Catalog.ofDescription, Description.withSchema]
  | _ => rfl

/-- All components but one are the same. -/
theorem get?_withSchema {pointer : Pointer} (apart : pointer ≠ ⟨.schemas, key⟩) :
    (Catalog.ofDescription description).get? pointer =
      (Catalog.ofDescription (description.withSchema key node)).get? pointer := by
  obtain ⟨ofSection, name⟩ := pointer
  cases ofSection with
  | schemas =>
      have different : name ≠ key := by
        rintro rfl
        exact apart rfl
      simp only [Catalog.get?, Catalog.entries, Catalog.ofDescription, Description.withSchema]
      induction description.components.schemas with
      | nil => rfl
      | cons entry rest hypothesis =>
          simp only [List.map_cons, List.lookup_cons, hypothesis]
          by_cases same : name = entry.1
          · rw [← same, if_neg different]
          · rw [beq_eq_false_iff_ne.mpr same]
  | _ => rfl

variable {description key}

theorem mem_declarations_withSchema
    {entry : Pointer × String × Node}
    (declared : entry ∈ (Catalog.ofDescription description).declarations)
    (apart : entry.1 ≠ ⟨.schemas, key⟩) :
    entry ∈ (Catalog.ofDescription (description.withSchema key node)).declarations := by
  obtain ⟨component, listed, rfl⟩ := List.mem_map.mp declared
  have different : component.1 ≠ key := by
    intro same
    exact apart (congrArg (Pointer.mk .schemas) same)
  have kept : component ∈ (description.withSchema key node).components.schemas := by
    refine List.mem_map.mpr ⟨component, listed, ?_⟩
    rw [if_neg different]
  refine List.mem_map.mpr ⟨component, kept, ?_⟩
  rw [(sameOutline_withSchema description key node).names]

theorem agreeFor_withSchema
    {start : Node}
    (independent : ¬ Depends (.ofDescription description) start ⟨.schemas, key⟩) :
    AgreeFor (.ofDescription description) (.ofDescription (description.withSchema key node))
      start := by
  intro pointer depends
  apply get?_withSchema
  rintro rfl
  exact independent depends

theorem followAlike_withSchema
    {α : Type}
    {nodes : List (OrReference α)}
    (independent : ∀ reference, .reference reference ∈ nodes →
      ¬ Resolves (.ofDescription description) id reference.target ⟨.schemas, key⟩) :
    FollowAlike (.ofDescription description) (.ofDescription (description.withSchema key node))
      nodes := by
  intro reference listed location
  refine ((sameOutline_withSchema description key node).follow_eq ?_ location []).symm
  intro pointer resolves
  apply get?_withSchema
  rintro rfl
  exact independent reference listed resolves

end Edit

/-- No type under the paths of a document depends on a component, and nothing under them
is found through it. -/
structure PathsAvoid (description : Description) (pointer : Pointer) : Prop where
  types : ∀ node ∈ description.surfaceNodes, ¬ Depends (.ofDescription description) node pointer
  parameters : ∀ reference, .reference reference ∈ description.parameterNodes →
    ¬ Resolves (.ofDescription description) id reference.target pointer
  requestBodies : ∀ reference, .reference reference ∈ description.requestBodyNodes →
    ¬ Resolves (.ofDescription description) id reference.target pointer
  responses : ∀ reference, .reference reference ∈ description.responseNodes →
    ¬ Resolves (.ofDescription description) id reference.target pointer

theorem PathsAvoid.sameSurface
    {description : Description}
    {key : String}
    (avoid : PathsAvoid description ⟨.schemas, key⟩)
    (node : Node) :
    SameSurface (.ofDescription description)
      (.ofDescription (description.withSchema key node)) where
  paths := rfl
  types := by
    intro start listed options location
    let context : Context := ⟨.ofDescription description, options, location⟩
    have outline : SameOutline context.catalog (.ofDescription (description.withSchema key node)) :=
      sameOutline_withSchema description key node
    have agree : AgreeFor context.catalog (.ofDescription (description.withSchema key node)) start :=
      agreeFor_withSchema node (avoid.types start listed)
    exact typeOf_over outline agree ⟨start, .start, .self⟩
  parameters := followAlike_withSchema node avoid.parameters
  requestBodies := followAlike_withSchema node avoid.requestBodies
  responses := followAlike_withSchema node avoid.responses

/-- The type of a node is the same in two documents with the same component names and
paths in both or in neither, if they agree on the components on which the type depends.
So replacing a component schema changes no declaration but its own, unless the
declaration depends on it. -/
theorem typeOf_eq_and_declarations_eq (description : Description) (options : Options) :
    (∀ (other : Description) (location : Option String) (stack : List Pointer) (node : Node),
      (∀ ofSection, Entries.keys ((Catalog.ofDescription description).entries ofSection) =
        Entries.keys ((Catalog.ofDescription other).entries ofSection)) →
      description.paths.isEmpty = other.paths.isEmpty →
      (∀ pointer, Depends (.ofDescription description) node pointer →
        (Catalog.ofDescription description).get? pointer =
          (Catalog.ofDescription other).get? pointer) →
      typeOf ⟨.ofDescription other, options, location⟩ ⟨stack, node⟩ =
        typeOf ⟨.ofDescription description, options, location⟩ ⟨stack, node⟩) ∧
    ∀ (key : String) (node : Node),
      (∀ entry ∈ (Catalog.ofDescription description).declarations,
        entry.1 ≠ ⟨.schemas, key⟩ →
        ¬ Depends (.ofDescription description) entry.2.2 ⟨.schemas, key⟩ →
        entry ∈ (Catalog.ofDescription (description.withSchema key node)).declarations ∧
        schemaDeclaration (.ofDescription (description.withSchema key node)) options entry =
          schemaDeclaration (.ofDescription description) options entry) ∧
      (PathsAvoid description ⟨.schemas, key⟩ →
        pathsDeclaration (.ofDescription (description.withSchema key node)) options =
          pathsDeclaration (.ofDescription description) options) := by
  refine ⟨?_, ?_⟩
  · intro other location stack node keys paths agree
    let context : Context := ⟨.ofDescription description, options, location⟩
    have outline : SameOutline context.catalog (.ofDescription other) :=
      sameOutline_ofDescription keys paths
    have agreeHere : AgreeFor context.catalog (.ofDescription other) node := agree
    exact typeOf_over outline agreeHere ⟨node, .start, .self⟩
  · intro key node
    refine ⟨?_, ?_⟩
    · rintro ⟨pointer, name, start⟩ declared apart independent
      refine ⟨mem_declarations_withSchema node declared apart, ?_⟩
      let context : Context := ⟨.ofDescription description, options, some pointer.text⟩
      have outline : SameOutline context.catalog (.ofDescription (description.withSchema key node)) :=
        sameOutline_withSchema description key node
      have agree : AgreeFor context.catalog (.ofDescription (description.withSchema key node)) start :=
        agreeFor_withSchema node independent
      have same : typeOf (context.over _) ⟨[pointer], start⟩ = typeOf context ⟨[pointer], start⟩ :=
        typeOf_over outline agree ⟨start, .start, .self⟩
      simp only [Context.over, context] at same
      unfold schemaDeclaration
      dsimp only
      rw [same]
    · intro avoid
      exact pathsDeclaration_over (avoid.sameSurface node) options

/-- A schema merges one component and refers to another one by name, which is replaced. A
response refers to that one, too. -/
theorem typeOf_eq_and_declarations_eq_of_merge :
    let whole : Schema :=
      { allOf := some [.reference ⟨"#/components/schemas/B", none⟩]
        properties := some [("x", .reference ⟨"#/components/schemas/C", none⟩)] }
    let branch : Schema := { types := ["object"] }
    let media : MediaType := { schema := some (.reference ⟨"#/components/schemas/C", none⟩) }
    let operation : Operation :=
      { responses := [("200", .inline { content := [("application/json", media)] })] }
    let description : Description :=
      { paths := [("/", { operations := [(.get, operation)] })]
        components :=
          { schemas := [("A", .inline whole), ("B", .inline branch),
              ("C", .inline { types := ["string"] })] } }
    let catalog := Catalog.ofDescription description
    let number : Node := .inline { types := ["number"] }
    let edited := Catalog.ofDescription (description.withSchema "C" number)
    Depends catalog (.inline whole) ⟨.schemas, "B"⟩ ∧
      ¬ Depends catalog (.inline whole) ⟨.schemas, "C"⟩ ∧
      typeOf ⟨edited, {}, none⟩ ⟨[], .inline whole⟩ =
        typeOf ⟨catalog, {}, none⟩ ⟨[], .inline whole⟩ ∧
      schemaDeclaration edited {} (⟨.schemas, "A"⟩, "A", .inline whole) =
        schemaDeclaration catalog {} (⟨.schemas, "A"⟩, "A", .inline whole) ∧
      pathsDeclaration edited {} = pathsDeclaration catalog {} := by
  intro whole branch media operation description catalog number edited
  have parsedB : Pointer.parse "#/components/schemas/B" = .ok ⟨.schemas, "B"⟩ := by cbv
  have parsedC : Pointer.parse "#/components/schemas/C" = .ok ⟨.schemas, "C"⟩ := by cbv
  have decodedB : Pointer.decoded ⟨.schemas, "B"⟩ = ⟨.schemas, "B"⟩ := by cbv
  have namedB : catalog.declaredName? ⟨.schemas, "B"⟩ = some "B" := by cbv
  have namedC : catalog.declaredName? ⟨.schemas, "C"⟩ = some "C" := by cbv
  have foundB : catalog.get? ⟨.schemas, "B"⟩ = some (.inline (.schema branch)) := rfl
  have insideWhole (node : Node) (inside : Inside (.inline whole) node) :
      node = .inline whole ∨ node = .reference ⟨"#/components/schemas/B", none⟩ ∨
        node = .reference ⟨"#/components/schemas/C", none⟩ := by
    induction inside with
    | self => exact .inl rfl
    | part _ member hypothesis =>
        rcases hypothesis with same | same | same <;> cases same
        have parts : whole.parts = [.reference ⟨"#/components/schemas/C", none⟩,
            .reference ⟨"#/components/schemas/B", none⟩] := rfl
        simp only [parts, List.mem_cons, List.not_mem_nil, or_false] at member
        exact .inr member.symm
  have insideBranch (node : Node) (inside : Inside (.inline branch) node) :
      node = .inline branch := by
    induction inside with
    | self => rfl
    | part _ member hypothesis =>
        cases hypothesis
        contradiction
  have resolvedB (pointer : Pointer)
      (resolves : Resolves catalog Pointer.decoded "#/components/schemas/B" pointer) :
      pointer = ⟨.schemas, "B"⟩ := by
    cases resolves with
    | direct parsed =>
        rw [parsedB] at parsed
        cases parsed
        exact decodedB
    | through parsed found =>
        rw [parsedB] at parsed
        cases parsed
        rw [decodedB, foundB] at found
        cases found
  have declared {reference : Reference} {pointer : Pointer}
      (inside : Inside (.inline whole) (.reference reference))
      (parsed : Pointer.parse reference.target = .ok pointer) :
      catalog.declaredName? pointer ≠ none := by
    rcases insideWhole _ inside with same | same | same <;> cases same
    · rw [Except.ok.inj (parsed.symm.trans parsedB), namedB]
      exact Option.some_ne_none _
    · rw [Except.ok.inj (parsed.symm.trans parsedC), namedC]
      exact Option.some_ne_none _
  have needsB : Needs catalog (.inline whole) ⟨.schemas, "B"⟩ := by
    refine .branch .self rfl (List.mem_singleton_self _) ?_
    rw [← decodedB]
    exact .direct parsedB
  have depends (pointer : Pointer) (depends : Depends catalog (.inline whole) pointer) :
      pointer = ⟨.schemas, "B"⟩ := by
    refine Depends.of_closed (fun node => node = .inline whole ∨ node = .inline branch)
      (fun pointer => pointer = ⟨.schemas, "B"⟩) (.inl rfl) ?_ ?_ depends
    · rintro reader pointer (rfl | rfl) needs
      · cases needs with
        | branch inside given member resolves =>
            rcases insideWhole _ inside with same | same | same <;> cases same
            cases given
            cases List.mem_singleton.mp member
            exact resolvedB pointer resolves
        | foreign inside parsed undeclared => exact absurd undeclared (declared inside parsed)
        | foreignAlias inside parsed undeclared => exact absurd undeclared (declared inside parsed)
      · cases needs with
        | branch inside given =>
            cases insideBranch _ inside
            cases given
        | foreign inside => cases insideBranch _ inside
        | foreignAlias inside => cases insideBranch _ inside
    · rintro pointer component node rfl found member
      rw [foundB] at found
      cases found
      exact .inr (List.mem_singleton.mp member)
  have independent : ¬ Depends catalog (.inline whole) ⟨.schemas, "C"⟩ := by
    intro onC
    exact absurd (depends _ onC) (by decide)
  have surface : description.surfaceNodes = [.reference ⟨"#/components/schemas/C", none⟩] := rfl
  have avoid : PathsAvoid description ⟨.schemas, "C"⟩ := by
    refine ⟨?_, ?_, ?_, ?_⟩
    · intro node listed
      rw [surface, List.mem_singleton] at listed
      rw [listed]
      exact not_depends_of_declared parsedC namedC _
    · intro reference listed
      contradiction
    · intro reference listed
      contradiction
    · intro reference listed
      simp [description, Description.responseNodes, Description.operations, operation] at listed
  have sameTypes := (typeOf_eq_and_declarations_eq description {}).1
  have sameDeclarations := (typeOf_eq_and_declarations_eq description {}).2 "C" number
  have outline := sameOutline_withSchema description "C" number
  refine ⟨⟨_, .start, needsB⟩, independent, ?_, ?_, sameDeclarations.2 avoid⟩
  · exact sameTypes _ none [] (.inline whole) outline.keys rfl (agreeFor_withSchema _ independent)
  · refine (sameDeclarations.1 _ ?_ (by decide) independent).2
    have names : catalog.names.lookup "A" = some "A" := by cbv
    refine List.mem_map.mpr ⟨("A", .inline whole), List.mem_cons_self, ?_⟩
    rw [names]
    rfl

end Typing
end ApiTypings
