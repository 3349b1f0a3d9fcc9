import ApiTypings.Proofs.Typing.Congruence
import ApiTypings.Proofs.Typing.UncommentedPaths
import ApiTypings.Typing.Declarations

/-!
# Modules of descriptions that match

The paths and the component schemas of descriptions that match have the same declarations, so
that one module is written for both, and the same is reported on the way.
-/

namespace ApiTypings
namespace Typing

open Component Document TypeScript

namespace Traced

variable {α β γ : Type} {Related : α → β → Prop}

/-- Two computations report the same, and their outcomes correspond. -/
structure Matches (Related : α → β → Prop) (one : Traced α) (other : Traced β) : Prop where
  events : other.events = one.events
  result : Corresponds Related one.result other.result

/-- What goes on alike after computations that match is the same computation. -/
theorem Matches.bind_eq
    {one : Traced α}
    {other : Traced β}
    (same : one.Matches Related other)
    {next : α → Traced γ}
    {nextToo : β → Traced γ}
    (agree : ∀ left right, Related left right → nextToo right = next left) :
    (other >>= nextToo) = one >>= next := by
  obtain ⟨_, result⟩ := one
  obtain ⟨_, resultToo⟩ := other
  obtain ⟨rfl, results⟩ := same
  dsimp only at results
  cases results with
  | error error => rfl
  | ok related =>
      change andThen _ _ = andThen _ _
      unfold andThen
      dsimp only
      rw [agree _ _ related]

theorem Matches.bind
    {δ : Type}
    {Final : γ → δ → Prop}
    {one : Traced α}
    {other : Traced β}
    (same : one.Matches Related other)
    {next : α → Traced γ}
    {nextToo : β → Traced δ}
    (agree : ∀ left right, Related left right → (next left).Matches Final (nextToo right)) :
    (one >>= next).Matches Final (other >>= nextToo) := by
  obtain ⟨_, result⟩ := one
  obtain ⟨_, resultToo⟩ := other
  obtain ⟨rfl, results⟩ := same
  dsimp only at results
  cases results with
  | error error => exact ⟨rfl, .error error⟩
  | ok related =>
      refine ⟨?_, (agree _ _ related).result⟩
      exact congrArg _ (agree _ _ related).events

theorem Matches.ofReferred
    {one : Except ReferenceError α}
    {other : Except ReferenceError β}
    (same : Corresponds Related one other) :
    (Traced.ofReferred one).Matches Related (Traced.ofReferred other) := by
  cases same with
  | error error => exact ⟨rfl, .error _⟩
  | ok related => exact ⟨rfl, .ok related⟩

/-- Sequences of computations that match one by one match. -/
theorem Matches.sequence
    {computations : List (Traced α)}
    {others : List (Traced β)}
    (each : List.Forall₂ (Matches Related) computations others) :
    (Traced.sequence computations).Matches (List.Forall₂ Related) (Traced.sequence others) := by
  induction each with
  | nil => exact ⟨rfl, .ok .nil⟩
  | cons first _ hypothesis =>
      refine first.bind fun _ _ related => hypothesis.bind fun _ _ rest => ?_
      exact ⟨rfl, .ok (.cons related rest)⟩

end Traced

section Surface

variable {detail : Detail} {context another : Context} (same : context.Matches detail another)

include same

/-! ## Objects to which references lead -/

theorem resolveAs_of_matches
    {α : Type}
    {Related : α → α → Prop}
    (problem : Problem)
    {pick : Target → Option α}
    (picked : ∀ target other, Target.Matches detail target other →
      Option.Rel Related (pick target) (pick other))
    {node twin : OrReference α}
    (matching : OrReference.Matches detail Related node twin) :
    Corresponds Related (resolveAs context problem pick node)
      (resolveAs another problem pick twin) := by
  cases matching with
  | inline related => exact .ok related
  | @reference reference other target description =>
      have followed := same.catalogs.follow context.location [] reference.target
      unfold resolveAs
      dsimp only
      rw [same.location, target]
      generalize context.catalog.follow _ _ _ = left at followed
      generalize another.catalog.follow _ _ _ = right at followed
      cases followed with
      | error error => exact .error error
      | @ok left right both =>
          have chosen := picked _ _ both.2
          dsimp only
          generalize pick left.2 = one at chosen
          generalize pick right.2 = two at chosen
          cases chosen with
          | none => exact .error _
          | some related => exact .ok related

theorem resolveParameter_of_matches
    {node twin : OrReference Parameter}
    (matching : OrReference.Matches detail (Parameter.Matches detail) node twin) :
    Corresponds (Parameter.Matches detail) (resolveParameter context node)
      (resolveParameter another twin) := by
  refine resolveAs_of_matches same _ ?_ matching
  rintro _ _ (_ | _ | both | _)
  case parameter => exact .some both
  all_goals exact .none

theorem resolveRequestBody_of_matches
    {node twin : OrReference RequestBody}
    (matching : OrReference.Matches detail (RequestBody.Matches detail) node twin) :
    Corresponds (RequestBody.Matches detail) (resolveRequestBody context node)
      (resolveRequestBody another twin) := by
  refine resolveAs_of_matches same _ ?_ matching
  rintro _ _ (_ | _ | _ | both)
  case requestBody => exact .some both
  all_goals exact .none

theorem resolveResponse_of_matches
    {node twin : OrReference Response}
    (matching : OrReference.Matches detail (Response.Matches detail) node twin) :
    Corresponds (Response.Matches detail) (resolveResponse context node)
      (resolveResponse another twin) := by
  refine resolveAs_of_matches same _ ?_ matching
  rintro _ _ (_ | both | _ | _)
  case response => exact .some both
  all_goals exact .none

/-! ## Members of operations -/

/-- Comments that are written only if they are asked for are the same. -/
theorem comment_of_matches
    {lines linesToo : Except Json.WriteError (List String)}
    (remark : detail = .annotated → linesToo = lines) :
    (if another.options.includeDescriptions then linesToo else .ok []) =
      if context.options.includeDescriptions then lines else .ok [] := by
  rw [same.options.same]
  dsimp only
  cases detail with
  | annotated => rw [remark rfl]
  | bare => simp only [(same.options.quiet rfl).1, Bool.false_eq_true, if_false]

theorem note_of_matches
    {description twin : Option String}
    (remark : detail = .annotated → twin = description) :
    note another.options twin = note context.options description :=
  comment_of_matches same fun annotated => by rw [remark annotated]

omit same in
/-- The primary representations of contents that match do. -/
theorem primary?_of_matches
    {content twin : Content}
    (matching : Content.Matches detail content twin) :
    Option.Rel (MediaType.Matches detail) (primary? content) (primary? twin) := by
  have first : Option.Rel (Named (MediaType.Matches detail))
      (content.find? fun entry => isJson entry.1) (twin.find? fun entry => isJson entry.1) := by
    induction matching with
    | nil => exact .none
    | cons named _ hypothesis =>
        cases named with
        | mk name both =>
            rw [List.find?_cons, List.find?_cons]
            dsimp only
            split
            · exact .some (.mk name both)
            · exact hypothesis
  have head : Option.Rel (Named (MediaType.Matches detail)) content.head? twin.head? := by
    cases matching with
    | nil => exact .none
    | cons named _ => exact .some named
  have value {entry other : Option (String × MediaType)}
      (named : Option.Rel (Named (MediaType.Matches detail)) entry other) :
      Option.Rel (MediaType.Matches detail) (entry.map Prod.snd) (other.map Prod.snd) := by
    rcases named with ⟨⟨_, both⟩⟩ | _
    · exact .some both
    · exact .none
  unfold primary?
  generalize content.find? _ = one at first
  generalize twin.find? _ = two at first
  cases first with
  | none => exact value head
  | some named => exact value (.some named)

theorem contentType_of_matches
    {content twin : Content}
    (matching : Content.Matches detail content twin) :
    contentType another twin = contentType context content := by
  have schemas : Option.Rel (Node.Matches detail) ((primary? content).bind MediaType.schema)
      ((primary? twin).bind MediaType.schema) := by
    have chosen := primary?_of_matches matching
    generalize primary? content = one at chosen
    generalize primary? twin = two at chosen
    cases chosen with
    | none => exact .none
    | some both => exact both.schema
  unfold contentType
  generalize (primary? content).bind MediaType.schema = one at schemas
  generalize (primary? twin).bind MediaType.schema = two at schemas
  cases schemas with
  | none => rfl
  | some nodes => exact typeOf_of_matches same ⟨rfl, nodes⟩

theorem parameterMember_of_matches
    {parameter twin : Parameter}
    (matching : parameter.Matches detail twin) :
    parameterMember another twin = parameterMember context parameter := by
  have stated : statedType another twin = statedType context parameter := by
    have schema := matching.schema
    unfold statedType
    rw [contentType_of_matches same matching.content]
    generalize parameter.schema = one at schema
    generalize twin.schema = two at schema
    cases schema with
    | none => rfl
    | some nodes => exact typeOf_of_matches same ⟨rfl, nodes⟩
  have templates : templated another.options twin = templated context.options parameter := by
    funext type
    unfold templated
    rw [matching.location, same.options.same]
  have comment : parameterComment another.options twin =
      parameterComment context.options parameter := by
    apply comment_of_matches same
    intro annotated
    obtain ⟨description, deprecated⟩ := matching.remark annotated
    rw [description, deprecated]
  unfold parameterMember
  rw [parameterType_eq, parameterType_eq, stated, templates, comment, matching.name,
    matching.required]

omit same in
theorem forall₂_mergeParameters
    {parameters twins : List Parameter}
    (each : List.Forall₂ (Parameter.Matches detail) parameters twins) :
    List.Forall₂ (Parameter.Matches detail) (mergeParameters parameters)
      (mergeParameters twins) := by
  have keyed : List.Forall₂ (Named (Parameter.Matches detail))
      (parameters.map fun parameter => ((parameter.location, parameter.name), parameter))
      (twins.map fun parameter => ((parameter.location, parameter.name), parameter)) := by
    apply List.rel_map _ each
    intro parameter twin both
    dsimp only
    rw [both.location, both.name]
    exact .mk _ both
  apply List.rel_map _ (forall₂_ofPairs keyed)
  rintro _ _ ⟨_, both⟩
  exact both

theorem placeMember_of_matches
    {parameters twins : List Parameter}
    (each : List.Forall₂ (Parameter.Matches detail) parameters twins)
    (place : Place) :
    placeMember another twins place = placeMember context parameters place := by
  have found : List.Forall₂ (Parameter.Matches detail)
      (parameters.filter fun parameter => parameter.location == place.key)
      (twins.filter fun parameter => parameter.location == place.key) := by
    apply List.rel_filter _ each
    intro parameter twin both
    dsimp only
    rw [both.location]
  have members := map_eq_map_of_forall₂
    (fun _ _ both => parameterMember_of_matches same both) found
  unfold placeMember
  generalize parameters.filter _ = left at found members
  generalize twins.filter _ = right at found members
  have required : right.any Parameter.required = left.any Parameter.required := by
    clear members
    induction found with
    | nil => rfl
    | cons both _ hypothesis =>
        rw [List.any_cons, List.any_cons, both.required, hypothesis]
  cases found with
  | nil => rfl
  | cons =>
      dsimp only
      rw [members, required]

section Operation

variable {operation twin : Operation} (matching : operation.Matches detail twin)

include matching

theorem parametersMember_of_matches
    {item other : PathItem}
    (items : item.Matches detail other) :
    parametersMember another other twin = parametersMember context item operation := by
  have resolved : List.Forall₂ (Traced.Matches (Parameter.Matches detail))
      ((item.parameters ++ operation.parameters).map fun node =>
        Traced.ofReferred (resolveParameter context node))
      ((other.parameters ++ twin.parameters).map fun node =>
        Traced.ofReferred (resolveParameter another node)) := by
    apply List.rel_map _ (List.rel_append items.parameters matching.parameters)
    intro node twin both
    exact .ofReferred (resolveParameter_of_matches same both)
  unfold parametersMember
  dsimp only
  refine (Traced.Matches.sequence resolved).bind_eq fun found foundToo each => ?_
  have merged := forall₂_mergeParameters each
  have strays : (mergeParameters foundToo).map reportStray =
      (mergeParameters found).map reportStray := by
    refine map_eq_map_of_forall₂ (fun parameter twin both => ?_) merged
    unfold reportStray
    rw [both.location, both.name]
  have groups : Place.all.map (placeMember another (mergeParameters foundToo)) =
      Place.all.map (placeMember context (mergeParameters found)) := by
    rw [funext (placeMember_of_matches same merged)]
  rw [strays, groups]

theorem requestBodyMember_of_matches :
    requestBodyMember another twin = requestBodyMember context operation := by
  have bodies := matching.requestBody
  unfold requestBodyMember
  generalize operation.requestBody = left at bodies
  generalize twin.requestBody = right at bodies
  cases bodies with
  | none => rfl
  | some nodes =>
      dsimp only
      refine (Traced.Matches.ofReferred (resolveRequestBody_of_matches same nodes)).bind_eq ?_
      intro body bodyToo both
      rw [contentType_of_matches same both.content, note_of_matches same both.remark, both.required]

theorem responsesMember_of_matches :
    responsesMember another twin = responsesMember context operation := by
  have members : twin.responses.map (responseMember another) =
      operation.responses.map (responseMember context) := by
    refine map_eq_map_of_forall₂ ?_ matching.responses
    rintro _ _ ⟨status, nodes⟩
    rw [responseMember_eq, responseMember_eq]
    refine (Traced.Matches.ofReferred (resolveResponse_of_matches same nodes)).bind_eq ?_
    intro response responseToo both
    have typed : responseType another responseToo = responseType context response := by
      unfold responseType
      rw [contentType_of_matches same both.content, isEmpty_of_forall₂ both.content]
    rw [typed, note_of_matches same both.remark]
  unfold responsesMember
  rw [members]

theorem operationComment_of_matches :
    operationComment another.options twin = operationComment context.options operation := by
  apply comment_of_matches same
  intro annotated
  obtain ⟨summary, description, identifier, deprecated⟩ := matching.remark annotated
  rw [summary, description, identifier, deprecated]

end Operation

end Surface

section Declarations

variable
    {detail : Detail}
    {catalog other : Catalog}
    (catalogs : catalog.Matches detail other)
    {options otherOptions : Options}
    (fit : OptionsFit detail options otherOptions)

include catalogs fit

theorem pathMember_of_matches
    {entry twin : String × PathItem}
    (matching : Named (PathItem.Matches detail) entry twin) :
    pathMember other otherOptions twin = pathMember catalog options entry := by
  obtain ⟨path, items⟩ := matching
  rename_i item twin
  have members : twin.operations.map (operationMember other otherOptions path twin) =
      item.operations.map (operationMember catalog options path item) := by
    refine map_eq_map_of_forall₂ ?_ items.operations
    rintro _ _ ⟨method, operations⟩
    have same : Context.Matches detail ⟨catalog, options, some (operationLocation path method)⟩
        ⟨other, otherOptions, some (operationLocation path method)⟩ := ⟨catalogs, fit, rfl⟩
    unfold operationMember
    dsimp only
    rw [parametersMember_of_matches same operations items,
      requestBodyMember_of_matches same operations, responsesMember_of_matches same operations,
      operationComment_of_matches same operations]
  have listed := items.operations
  unfold pathMember
  dsimp only
  generalize item.operations = left at listed members
  generalize twin.operations = right at listed members
  cases listed with
  | nil => rfl
  | cons =>
      dsimp only
      rw [members]

theorem pathsDeclaration_of_matches
    (paths : List.Forall₂ (Named (PathItem.Matches detail)) catalog.description.paths
      other.description.paths) :
    pathsDeclaration other otherOptions = pathsDeclaration catalog options := by
  have members := map_eq_map_of_forall₂
    (fun _ _ both => pathMember_of_matches catalogs fit both) paths
  unfold pathsDeclaration
  generalize catalog.description.paths = left at paths members
  generalize other.description.paths = right at paths members
  cases paths with
  | nil => rfl
  | cons =>
      dsimp only
      rw [members, fit.same]

theorem schemaDeclaration_of_matches
    (pointer : Pointer)
    (name : String)
    {node twin : Node}
    (matching : Node.Matches detail node twin) :
    schemaDeclaration other otherOptions (pointer, name, twin) =
      schemaDeclaration catalog options (pointer, name, node) := by
  have same : Context.Matches detail ⟨catalog, options, some pointer.text⟩
      ⟨other, otherOptions, some pointer.text⟩ := ⟨catalogs, fit, rfl⟩
  have plain : isPlainObject twin = isPlainObject node := by
    cases matching with
    | reference => rfl
    | inline schemas => exact schemas.isPlainObject
  have kinds : declarationKind otherOptions twin = declarationKind options node := by
    funext body
    unfold declarationKind
    rw [plain, fit.same]
  have comment : declarationComment otherOptions twin = declarationComment options node := by
    cases matching with
    | reference => rfl
    | inline schemas => exact describe_of_matches fit (.inline schemas)
  unfold schemaDeclaration
  dsimp only
  rw [typeOf_of_matches same (⟨rfl, matching⟩ : Site.Matches detail ⟨[pointer], node⟩
    ⟨[pointer], twin⟩), kinds, comment]

end Declarations

/-! ## Catalogs of descriptions -/

theorem optionRel_lookup
    {α β : Type}
    {Related : α → β → Prop}
    {entries : List (String × α)}
    {others : List (String × β)}
    (each : List.Forall₂ (Named Related) entries others)
    (key : String) :
    Option.Rel Related (entries.lookup key) (others.lookup key) := by
  induction each with
  | nil => exact .none
  | cons named _ hypothesis =>
      obtain ⟨name, both⟩ := named
      rw [List.lookup_cons, List.lookup_cons]
      split
      · exact .some both
      · exact hypothesis

theorem keys_of_named
    {α β : Type}
    {Related : α → β → Prop}
    {entries : List (String × α)}
    {others : List (String × β)}
    (each : List.Forall₂ (Named Related) entries others) :
    Entries.keys others = Entries.keys entries := by
  refine map_eq_map_of_forall₂ ?_ each
  rintro _ _ ⟨name, both⟩
  rfl

section Descriptions

variable
    {detail : Detail}
    {description other : Description}
    (same : description.Matches detail other)

include same

theorem forall₂_entries (ofSection : Section) :
    List.Forall₂ (Named (ComponentMatches detail))
      ((Catalog.ofDescription description).entries ofSection)
      ((Catalog.ofDescription other).entries ofSection) := by
  have within {α : Type} {Related : α → α → Prop} {entries others : List (String × OrReference α)}
      (each : List.Forall₂ (Named (OrReference.Matches detail Related)) entries others)
      {change : α → Target}
      (changed : ∀ object twin, Related object twin →
        Target.Matches detail (change object) (change twin)) :
      List.Forall₂ (Named (ComponentMatches detail))
        (entries.map fun entry => (entry.1, OrReference.map change entry.2))
        (others.map fun entry => (entry.1, OrReference.map change entry.2)) := by
    apply List.rel_map _ each
    rintro _ _ ⟨name, target | related⟩
    · exact .mk name (.reference target ‹_›)
    · exact .mk name (.inline (changed _ _ related))
  cases ofSection with
  | schemas => exact within same.components.schemas fun _ _ => .schema
  | responses => exact within same.components.responses fun _ _ => .response
  | parameters => exact within same.components.parameters fun _ _ => .parameter
  | requestBodies => exact within same.components.requestBodies fun _ _ => .requestBody

theorem names_of_matches :
    (Catalog.ofDescription other).names = (Catalog.ofDescription description).names := by
  unfold Catalog.ofDescription
  dsimp only
  rw [isEmpty_of_forall₂ same.paths, keys_of_named same.components.schemas]

/-- Descriptions that match have catalogs that do. -/
theorem catalog_of_matches :
    (Catalog.ofDescription description).Matches detail (Catalog.ofDescription other) where
  component pointer := optionRel_lookup (forall₂_entries same pointer.ofSection) pointer.name
  available ofSection := by
    unfold Catalog.available
    rw [keys_of_named (forall₂_entries same ofSection)]
  declared pointer := by
    unfold Catalog.declaredName?
    rw [names_of_matches same]

theorem forall₂_declarations :
    List.Forall₂ (Named (Named (Node.Matches detail)))
      (Catalog.ofDescription description).declarations
      (Catalog.ofDescription other).declarations := by
  unfold Catalog.declarations
  rw [names_of_matches same]
  apply List.rel_map _ same.components.schemas
  rintro _ _ ⟨name, nodes⟩
  exact .mk _ (.mk _ nodes)

theorem size_of_matches :
    (Catalog.ofDescription other).size = (Catalog.ofDescription description).size := by
  unfold Catalog.size
  rw [List.length_flatMap, List.length_flatMap]
  congr 2
  funext ofSection
  exact (forall₂_entries same ofSection).length_eq.symm

/-- Descriptions that match have the same module. -/
theorem generateFrom_of_matches
    {options : Options}
    (quiet : detail = .bare →
      options.includeDescriptions = false ∧ options.includeExamples = false) :
    generateFrom other options = generateFrom description options := by
  have catalogs := catalog_of_matches same
  have fit : OptionsFit detail options options := ⟨rfl, quiet⟩
  have paths : pathsDeclaration (.ofDescription other) options =
      pathsDeclaration (.ofDescription description) options :=
    pathsDeclaration_of_matches catalogs fit same.paths
  have declarations : schemaDeclarations (.ofDescription other) options =
      schemaDeclarations (.ofDescription description) options := by
    unfold schemaDeclarations
    rw [map_eq_map_of_forall₂ _ (forall₂_declarations same)]
    rintro _ _ ⟨pointer, ⟨name, nodes⟩⟩
    exact schemaDeclaration_of_matches catalogs fit pointer name nodes
  unfold generateFrom generate
  dsimp only
  rw [size_of_matches same, names_of_matches same, paths, declarations]

end Descriptions

end Typing
end ApiTypings
