import ApiTypings.Proofs.Typing.Denotation
import ApiTypings.Proofs.Typing.UncommentedPaths

/-!
# What the paths of a document denote

The rules by which a tree is assigned to all paths, as relations from the leaves up: content,
parameters, request bodies and responses, operations, and paths. As for sites there is no text
and no comment in them, and nothing that fails.
-/

namespace ApiTypings
namespace Document

/-- The statuses of all responses. -/
def Description.statuses (description : Description) : List String :=
  description.paths.flatMap fun path =>
    path.2.operations.flatMap fun method => method.2.responses.map Prod.fst

theorem Description.mem_statuses
    {description : Description}
    {path : String × PathItem}
    (onPath : path ∈ description.paths)
    {method : Method × Operation}
    (ofPath : method ∈ path.2.operations)
    {entry : String × OrReference Response}
    (listed : entry ∈ method.2.responses) :
    entry.1 ∈ description.statuses :=
  List.mem_flatMap.mpr ⟨path, onPath, List.mem_flatMap.mpr
    ⟨method, ofPath, List.mem_map_of_mem listed⟩⟩

end Document

namespace Typing

open Component Document TypeScript

/-- A field with a key whose type is denoted. -/
inductive FieldOf (key : MemberKey) (optional : Bool) (Denoted : Tree → Prop) :
    TypeScript.Field Tree → Prop
  | mk {tree : Tree} (denotes : Denoted tree) : FieldOf key optional Denoted ⟨key, tree, optional, false⟩

/-- An object type with one field for every item, in order. -/
inductive ObjectOf {α : Type} (Denoted : α → TypeScript.Field Tree → Prop) (items : List α) :
    Tree → Prop
  | mk {fields : List (TypeScript.Field Tree)} (each : List.Forall₂ Denoted items fields) :
      ObjectOf Denoted items (.object fields)

/-! ## Leaves -/

/-- What content denotes: its primary representation. Without a schema nothing is known. -/
abbrev ContentDenotes (context : Context) (content : Content) : Tree → Prop :=
  Denotes context (.optional [] ((primary? content).bind MediaType.schema))

/-- What is stated about a parameter, by its schema or else by its content. -/
inductive StatedDenotes (context : Context) (parameter : Parameter) : Tree → Prop
  | schema {node : Node} {tree : Tree} (given : parameter.schema = some node)
      (denotes : Denotes context (.site ⟨[], node⟩) tree) : StatedDenotes context parameter tree
  | content {tree : Tree} (missing : parameter.schema = none)
      (denotes : ContentDenotes context parameter.content tree) :
      StatedDenotes context parameter tree

/-- Whether a string is written as a template literal. -/
def asksTemplate (context : Context) (parameter : Parameter) : Prop :=
  context.options.pathParamsAsTypes = true ∧ parameter.location = Place.path.key

/-- What a parameter denotes. -/
inductive ParameterDenotes (context : Context) (parameter : Parameter) : Tree → Prop
  | template (asked : asksTemplate context parameter)
      (stated : StatedDenotes context parameter (.name Keyword.string.render)) :
      ParameterDenotes context parameter TypeExpr.template.tree
  | plain {tree : Tree}
      (kept : ¬ (asksTemplate context parameter ∧ tree = .name Keyword.string.render))
      (stated : StatedDenotes context parameter tree) : ParameterDenotes context parameter tree

/-- What a response denotes. -/
inductive ResponseDenotes (context : Context) (node : OrReference Response) : Tree → Prop
  | void {response : Response} (resolved : resolveResponse context node = .ok response)
      (empty : response.content = []) : ResponseDenotes context node (.name Keyword.void.render)
  | content {response : Response} {tree : Tree}
      (resolved : resolveResponse context node = .ok response)
      (filled : response.content ≠ [])
      (denotes : ContentDenotes context response.content tree) :
      ResponseDenotes context node tree

/-! ## Operations -/

/-- The parameters of an operation, after those of its path. Each node is resolved, and the
last parameter with a place and a name counts. -/
def ResolvesTo (context : Context) (nodes : List (OrReference Parameter))
    (parameters : List Parameter) : Prop :=
  ∃ resolved, List.Forall₂ (fun node parameter => resolveParameter context node = .ok parameter)
    nodes resolved ∧ parameters = mergeParameters resolved

/-- The parameters at a place. -/
def atPlace (parameters : List Parameter) (place : Place) : List Parameter :=
  parameters.filter fun parameter => parameter.location == place.key

/-- The places that are not empty, in order. -/
def usedPlaces (parameters : List Parameter) : List Place :=
  Place.all.filter fun place => !(atPlace parameters place).isEmpty

/-- The field of a place: one field for every parameter, and optional if they all are. -/
abbrev PlaceDenotes (context : Context) (parameters : List Parameter) (place : Place) :
    TypeScript.Field Tree → Prop :=
  FieldOf (.word place.key) (!(atPlace parameters place).any Parameter.required)
    (ObjectOf
      (fun parameter => FieldOf (.quoted parameter.name) (!parameter.required)
        (ParameterDenotes context parameter))
      (atPlace parameters place))

/-- The field of the parameters. There is one exactly if some parameter has a place. -/
inductive ParametersDenote (context : Context) (nodes : List (OrReference Parameter)) :
    List (TypeScript.Field Tree) → Prop
  | none {parameters : List Parameter} (resolved : ResolvesTo context nodes parameters)
      (strays : ∀ parameter ∈ parameters, Place.ofKey? parameter.location = none) :
      ParametersDenote context nodes []
  | some {parameters : List Parameter} {field : TypeScript.Field Tree}
      (resolved : ResolvesTo context nodes parameters)
      (placed : ∃ parameter ∈ parameters, Place.ofKey? parameter.location ≠ none)
      (denotes : FieldOf (.word "parameters") false
        (ObjectOf (PlaceDenotes context parameters) (usedPlaces parameters)) field) :
      ParametersDenote context nodes [field]

/-- The field of the request body. There is one exactly if the operation has one, and it is
optional exactly if the body is not required. -/
inductive RequestBodyDenotes (context : Context) (operation : Operation) :
    List (TypeScript.Field Tree) → Prop
  | none (missing : operation.requestBody = none) : RequestBodyDenotes context operation []
  | some {node : OrReference RequestBody} {body : RequestBody} {field : TypeScript.Field Tree}
      (given : operation.requestBody = some node)
      (resolved : resolveRequestBody context node = .ok body)
      (denotes : FieldOf (.word "requestBody") (!body.required)
        (ContentDenotes context body.content) field) :
      RequestBodyDenotes context operation [field]

/-- What the responses denote: one field for every status. -/
inductive ResponsesDenote (context : Context) (operation : Operation) : Tree → Prop
  | none (missing : operation.responses = []) :
      ResponsesDenote context operation (TypeExpr.record .never).tree
  | some {tree : Tree} (given : operation.responses ≠ [])
      (denotes : ObjectOf
        (fun entry : String × OrReference Response =>
          FieldOf (statusKey entry.1) false (ResponseDenotes context entry.2))
        operation.responses tree) :
      ResponsesDenote context operation tree

/-- What an operation of a path denotes. -/
inductive OperationDenotes (context : Context) (item : PathItem) (operation : Operation) :
    Tree → Prop
  | mk {parameters requestBody : List (TypeScript.Field Tree)} {responses : TypeScript.Field Tree}
      (takes : ParametersDenote context (item.parameters ++ operation.parameters) parameters)
      (sends : RequestBodyDenotes context operation requestBody)
      (answers : FieldOf (.word "responses") false (ResponsesDenote context operation) responses) :
      OperationDenotes context item operation (.object (parameters ++ requestBody ++ [responses]))

/-! ## Paths -/

section Paths

variable (catalog : Catalog) (options : Options)

/-- What a path denotes: one field for every operation. -/
inductive PathDenotes (entry : String × PathItem) : Tree → Prop
  | none (idle : entry.2.operations = []) : PathDenotes entry (TypeExpr.record .never).tree
  | some {tree : Tree} (given : entry.2.operations ≠ [])
      (denotes : ObjectOf
        (fun method : Method × Operation => FieldOf (.word method.1.key) false
          (OperationDenotes ⟨catalog, options, some (operationLocation entry.1 method.1)⟩ entry.2
            method.2))
        entry.2.operations tree) :
      PathDenotes entry tree

/-- What all paths denote: one field for every path, in document order. -/
def SurfaceDenotes : Tree → Prop :=
  ObjectOf
    (fun entry : String × PathItem =>
      FieldOf (.quoted entry.1) false (PathDenotes catalog options entry))
    catalog.description.paths

end Paths

/-! ## One tree at most -/

/-- At most one thing is related. -/
def AtMostOne {α : Type} (Related : α → Prop) : Prop :=
  ∀ one other, Related one → Related other → other = one

theorem FieldOf.atMostOne
    {key : MemberKey}
    {optional : Bool}
    {Denoted : Tree → Prop}
    (unique : AtMostOne Denoted) :
    AtMostOne (FieldOf key optional Denoted) := by
  rintro _ _ ⟨one⟩ ⟨other⟩
  rw [unique _ _ one other]

theorem forall₂_atMostOne
    {α β : Type}
    {Related : α → β → Prop}
    {items : List α}
    (unique : ∀ item ∈ items, AtMostOne (Related item)) :
    AtMostOne (List.Forall₂ Related items) := by
  intro results others each eachOther
  induction each generalizing others with
  | nil =>
      cases eachOther
      rfl
  | cons one _ hypothesis =>
      cases eachOther with
      | cons other rest =>
          obtain ⟨first, later⟩ := List.forall_mem_cons.mp unique
          rw [first _ _ one other, hypothesis later _ rest]

theorem ObjectOf.atMostOne
    {α : Type}
    {Denoted : α → TypeScript.Field Tree → Prop}
    {items : List α}
    (unique : ∀ item ∈ items, AtMostOne (Denoted item)) :
    AtMostOne (ObjectOf Denoted items) := by
  rintro _ _ ⟨each⟩ ⟨others⟩
  rw [forall₂_atMostOne unique _ _ each others]

variable {context : Context}

theorem Denotes.atMostOne (subject : Subject) : AtMostOne (Denotes context subject) :=
  fun _ _ one other => one.unique other

theorem StatedDenotes.atMostOne (parameter : Parameter) :
    AtMostOne (StatedDenotes context parameter) := by
  intro _ _ one other
  cases one with
  | schema given denotes =>
      cases other with
      | schema again denotesOther =>
          rw [given] at again
          cases again
          exact denotes.unique denotesOther
      | content missing _ => simp_all
  | content missing denotes =>
      cases other with
      | schema given _ => simp_all
      | content _ denotesOther => exact denotes.unique denotesOther

theorem ParameterDenotes.atMostOne (parameter : Parameter) :
    AtMostOne (ParameterDenotes context parameter) := by
  intro _ _ one other
  cases one with
  | template asked stated =>
      cases other with
      | template => rfl
      | plain kept statedOther =>
          exact absurd ⟨asked, StatedDenotes.atMostOne parameter _ _ stated statedOther⟩ kept
  | plain kept stated =>
      cases other with
      | template asked statedOther =>
          exact absurd ⟨asked, StatedDenotes.atMostOne parameter _ _ statedOther stated⟩ kept
      | plain _ statedOther => exact StatedDenotes.atMostOne parameter _ _ stated statedOther

theorem ResponseDenotes.atMostOne (node : OrReference Response) :
    AtMostOne (ResponseDenotes context node) := by
  intro _ _ one other
  cases one with
  | void resolved empty =>
      cases other with
      | void => rfl
      | content again filled _ => simp_all
  | content resolved filled denotes =>
      cases other with
      | void again empty => simp_all
      | content again _ denotesOther =>
          rw [resolved] at again
          cases again
          exact denotes.unique denotesOther

theorem ResolvesTo.unique
    {nodes : List (OrReference Parameter)}
    {one other : List Parameter}
    (resolved : ResolvesTo context nodes one)
    (resolvedOther : ResolvesTo context nodes other) :
    other = one := by
  obtain ⟨found, each, rfl⟩ := resolved
  obtain ⟨foundOther, eachOther, rfl⟩ := resolvedOther
  rw [forall₂_atMostOne ?_ _ _ each eachOther]
  intro node _ parameter another resolves again
  rw [resolves] at again
  exact (Except.ok.inj again).symm

theorem PlaceDenotes.atMostOne (parameters : List Parameter) (place : Place) :
    AtMostOne (PlaceDenotes context parameters place) :=
  FieldOf.atMostOne (ObjectOf.atMostOne fun parameter _ =>
    FieldOf.atMostOne (ParameterDenotes.atMostOne parameter))

theorem ParametersDenote.atMostOne (nodes : List (OrReference Parameter)) :
    AtMostOne (ParametersDenote context nodes) := by
  intro _ _ one other
  cases one with
  | none resolved strays =>
      cases other with
      | none => rfl
      | some again placed _ =>
          cases resolved.unique again
          obtain ⟨parameter, listed, known⟩ := placed
          exact absurd (strays parameter listed) known
  | some resolved placed denotes =>
      cases other with
      | none again strays =>
          cases resolved.unique again
          obtain ⟨parameter, listed, known⟩ := placed
          exact absurd (strays parameter listed) known
      | some again _ denotesOther =>
          cases resolved.unique again
          rw [FieldOf.atMostOne (ObjectOf.atMostOne fun place _ =>
            PlaceDenotes.atMostOne _ place) _ _ denotes denotesOther]

theorem RequestBodyDenotes.atMostOne (operation : Operation) :
    AtMostOne (RequestBodyDenotes context operation) := by
  intro _ _ one other
  cases one with
  | none missing =>
      cases other with
      | none => rfl
      | some given _ _ => simp_all
  | some given resolved denotes =>
      cases other with
      | none missing => simp_all
      | some again resolvedOther denotesOther =>
          rw [given] at again
          cases again
          rw [resolved] at resolvedOther
          cases resolvedOther
          rw [FieldOf.atMostOne (Denotes.atMostOne _) _ _ denotes denotesOther]

theorem ResponsesDenote.atMostOne (operation : Operation) :
    AtMostOne (ResponsesDenote context operation) := by
  intro _ _ one other
  cases one with
  | none missing =>
      cases other with
      | none => rfl
      | some given _ => exact absurd missing given
  | some given denotes =>
      cases other with
      | none missing => exact absurd missing given
      | some _ denotesOther =>
          refine ObjectOf.atMostOne ?_ _ _ denotes denotesOther
          exact fun entry _ => FieldOf.atMostOne (ResponseDenotes.atMostOne entry.2)

theorem OperationDenotes.atMostOne (item : PathItem) (operation : Operation) :
    AtMostOne (OperationDenotes context item operation) := by
  rintro _ _ ⟨takes, sends, answers⟩ ⟨takesOther, sendsOther, answersOther⟩
  rw [ParametersDenote.atMostOne _ _ _ takes takesOther,
    RequestBodyDenotes.atMostOne _ _ _ sends sendsOther,
    FieldOf.atMostOne (ResponsesDenote.atMostOne operation) _ _ answers answersOther]

theorem PathDenotes.atMostOne (catalog : Catalog) (options : Options) (entry : String × PathItem) :
    AtMostOne (PathDenotes catalog options entry) := by
  intro _ _ one other
  cases one with
  | none idle =>
      cases other with
      | none => rfl
      | some given _ => exact absurd idle given
  | some given denotes =>
      cases other with
      | none idle => exact absurd idle given
      | some _ denotesOther =>
          refine ObjectOf.atMostOne ?_ _ _ denotes denotesOther
          exact fun method _ => FieldOf.atMostOne (OperationDenotes.atMostOne entry.2 method.2)

/-- All paths denote one tree at most. -/
theorem SurfaceDenotes.atMostOne (catalog : Catalog) (options : Options) :
    AtMostOne (SurfaceDenotes catalog options) :=
  ObjectOf.atMostOne fun entry _ => FieldOf.atMostOne (PathDenotes.atMostOne catalog options entry)

end Typing
end ApiTypings
