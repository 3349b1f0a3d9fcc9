import ApiTypings.Options
import ApiTypings.Typing.Traced

/-!
# Sites

A site is a schema node together with the pointers that are being expanded
around it. Only references that occur in the components or in the node that was
asked for can be met, so only finitely many pointers can be expanded. Sites are
ordered by the number of these that are not being expanded and then by the size
of the node; a step from a node to one of its parts, or through a reference that
is not being expanded, goes down.
-/

namespace ApiTypings
namespace Typing

open Component Document

/-- What stays the same while the type of a unit is computed. -/
structure Context where
  catalog : Catalog
  options : Options
  location : Option String := none

/-- Where references can be met: in the components, and in the node whose type
is asked for. -/
structure Scope where
  catalog : Catalog
  start : Node

/-- The scope of a node. -/
def Context.scope (context : Context) (start : Node) : Scope :=
  ⟨context.catalog, start⟩

namespace Scope

/-- The targets of the references that can be met. -/
def references (scope : Scope) : List String :=
  scope.catalog.references ++ Node.references scope.start

/-- The pointers that can be met. -/
def pointers (scope : Scope) : List Pointer :=
  scope.references.filterMap fun target => (Pointer.parse target).toOption

/-- The pointer of a reference that can be met can be met. -/
theorem mem_pointers
    {scope : Scope}
    {target : String}
    {location : Option String}
    {pointer : Pointer}
    (occurs : target ∈ scope.references)
    (parsed : Catalog.parse target location = .ok pointer) :
    pointer ∈ scope.pointers := by
  refine List.mem_filterMap.mpr ⟨target, occurs, ?_⟩
  unfold Catalog.parse at parsed
  split at parsed
  · rename_i spelled
    rw [spelled, ← Except.ok.inj parsed]
    rfl
  · contradiction

end Scope

/-- A node, and the pointers that are being expanded, the latest first. -/
structure Site where
  stack : List Pointer
  node : Node

namespace Site

/-- Whether only references of the scope can be met at a site. -/
def Within (scope : Scope) (site : Site) : Prop :=
  ∀ target ∈ Node.references site.node, target ∈ scope.references

/-- How many pointers are not being expanded at a site. -/
def unopened (scope : Scope) (site : Site) : Nat :=
  freshCount scope.pointers site.stack

/-- The order of sites in a scope. -/
structure Below (scope : Scope) (inner outer : Site) : Prop where
  lower :
    inner.unopened scope < outer.unopened scope ∨
      inner.unopened scope = outer.unopened scope ∧ sizeOf inner.node < sizeOf outer.node
  within : inner.Within scope

/-- The node that was asked for is in its scope. -/
theorem within_start (context : Context) (stack : List Pointer) (node : Node) :
    Within (context.scope node) ⟨stack, node⟩ :=
  fun _ occurs => List.mem_append_right _ occurs

/-- A node of a component is in every scope. -/
theorem within_of_get?
    {scope : Scope}
    {pointer : Pointer}
    {component : OrReference Target}
    {stack : List Pointer}
    {node : Node}
    (found : scope.catalog.get? pointer = some component)
    (inside : ∀ target ∈ Node.references node, target ∈ Catalog.referencesIn component) :
    Within scope ⟨stack, node⟩ :=
  fun target occurs =>
    List.mem_append_left _ (Catalog.mem_references_of_get? found (inside target occurs))

/-- A component that is a reference is in every scope. -/
theorem within_of_reference
    {scope : Scope}
    {pointer : Pointer}
    {reference : Reference}
    {stack : List Pointer}
    (found : scope.catalog.get? pointer = some (.reference reference)) :
    Within scope ⟨stack, .reference reference⟩ :=
  within_of_get? found fun target occurs => by
    rwa [Node.references_reference] at occurs

/-- A component that is a schema is in every scope. -/
theorem within_of_schema
    {scope : Scope}
    {pointer : Pointer}
    {schema : Schema}
    {stack : List Pointer}
    (found : scope.catalog.get? pointer = some (.inline (.schema schema))) :
    Within scope ⟨stack, .inline schema⟩ :=
  within_of_get? found fun _ occurs => occurs

namespace Below

variable {scope : Scope} {inner middle outer : Site}

/-- The order of sites is transitive. -/
theorem trans
    (first : Below scope inner middle)
    (second : Below scope middle outer) :
    Below scope inner outer := by
  refine ⟨?_, first.within⟩
  have lower := first.lower
  have upper := second.lower
  omega

/-- The order of sites is the lexicographic order of their two measures. -/
theorem lex (below : Below scope inner outer) :
    Prod.Lex (· < ·) (· < ·)
      (inner.unopened scope, sizeOf inner.node)
      (outer.unopened scope, sizeOf outer.node) := by
  cases below.lower with
  | inl fewer => exact Prod.Lex.left _ _ fewer
  | inr smaller =>
      rw [smaller.1]
      exact Prod.Lex.right _ smaller.2

/-- A part of a schema is below the schema. -/
theorem of_part
    {stack : List Pointer}
    {part : Node}
    {schema : Schema}
    (within : Within scope ⟨stack, .inline schema⟩)
    (member : part ∈ schema.parts) :
    Below scope ⟨stack, part⟩ ⟨stack, .inline schema⟩ := by
  refine ⟨.inr ⟨rfl, ?_⟩, fun target occurs => ?_⟩
  · have smaller := Schema.sizeOf_lt_of_mem_parts member
    simp only [OrReference.inline.sizeOf_spec]
    omega
  · exact within target (Node.mem_references_of_part member occurs)

/-- A node in the scope is below a reference once its pointer is being expanded. -/
theorem of_opened
    {stack : List Pointer}
    {location : Option String}
    {pointer : Pointer}
    {reference : Reference}
    {node : Node}
    (within : Within scope ⟨stack, .reference reference⟩)
    (parsed : Catalog.parse reference.target location = .ok pointer)
    (closed : pointer ∉ stack)
    (inside : Within scope ⟨pointer :: stack, node⟩) :
    Below scope ⟨pointer :: stack, node⟩ ⟨stack, .reference reference⟩ := by
  refine ⟨.inl (freshCount_cons_lt (Scope.mem_pointers (within _ ?_) parsed) closed), inside⟩
  rw [Node.references_reference]
  exact List.mem_singleton_self _

end Below

end Site

/-- What a reference in schema position stands for. -/
inductive Referral
  /-- A declaration of its own. -/
  | named (name : String)
  /-- A component that is being expanded already, or has no schema. -/
  | unknown
  /-- The schema of a parameter. -/
  | inlined (site : Site)

/-- The target of a component, references followed. -/
def Context.target (context : Context) : OrReference Target → Except ReferenceError Target
  | .inline target => .ok target
  | .reference next =>
      (context.catalog.follow context.location [] next.target).map Prod.snd

/-- What a reference to something other than a schema stands for. -/
def Context.inlining
    (context : Context)
    (stack : List Pointer)
    (reference : String)
    (pointer : Pointer)
    (component : OrReference Target) :
    Except ReferenceError Referral :=
  if pointer ∈ stack then .ok .unknown
  else
    match context.target component with
    | .error error => .error error
    | .ok (.parameter ⟨_, _, _, _, _, some node, _⟩) => .ok (.inlined ⟨pointer :: stack, node⟩)
    | .ok (.parameter _) => .ok .unknown
    | .ok _ => .error ⟨reference, .notSchema, context.location⟩

/-- The component of a pointer that a reference in schema position spells. -/
def Context.component (context : Context) (pointer : Pointer) :
    Except ReferenceError (OrReference Target) :=
  context.catalog.find pointer.text context.location pointer.decoded

/-- What a reference stands for where the given pointers are being expanded. -/
def Context.refer
    (context : Context)
    (stack : List Pointer)
    (reference : String) :
    Except ReferenceError Referral :=
  match Catalog.parse reference context.location with
  | .error error => .error error
  | .ok pointer =>
      match context.component pointer with
      | .error error => .error error
      | .ok component =>
          match context.catalog.declaredName? pointer with
          | some name => .ok (.named name)
          | none => context.inlining stack reference pointer component

/-- The target of a component stands under some pointer. -/
theorem get?_of_target
    {context : Context}
    {pointer : Pointer}
    {component : OrReference Target}
    {target : Target}
    (found : context.catalog.get? pointer = some component)
    (reached : context.target component = .ok target) :
    ∃ place, context.catalog.get? place = some (.inline target) := by
  cases component with
  | inline object =>
      simp only [Context.target, Except.ok.injEq] at reached
      exact ⟨pointer, reached ▸ found⟩
  | reference next =>
      unfold Context.target at reached
      cases followed : context.catalog.follow context.location [] next.target with
      | error error => simp [followed, Except.map] at reached
      | ok pair =>
          simp only [followed, Except.map, Except.ok.injEq] at reached
          exact ⟨pair.1, reached ▸ Catalog.get?_of_follow followed⟩

/-- An inlined site is below the reference. -/
theorem below_of_refer
    {context : Context}
    {start : Node}
    {stack : List Pointer}
    {reference : Reference}
    {site : Site}
    (within : Site.Within (context.scope start) ⟨stack, .reference reference⟩)
    (referred : context.refer stack reference.target = .ok (.inlined site)) :
    site.Below (context.scope start) ⟨stack, .reference reference⟩ := by
  unfold Context.refer at referred
  split at referred
  · contradiction
  · rename_i parsed
    split at referred
    · contradiction
    · rename_i found
      split at referred
      · simp at referred
      · unfold Context.inlining at referred
        split at referred
        · simp at referred
        · rename_i closed
          split at referred
          · contradiction
          · rename_i node _ reached
            simp only [Except.ok.injEq, Referral.inlined.injEq] at referred
            rw [← referred]
            refine .of_opened within parsed closed ?_
            obtain ⟨place, stands⟩ := get?_of_target (Catalog.get?_of_find found) reached
            exact Site.within_of_get? stands fun target occurs => by
              simpa [Catalog.referencesIn] using occurs
          · simp at referred
          · contradiction

end Typing
end ApiTypings
