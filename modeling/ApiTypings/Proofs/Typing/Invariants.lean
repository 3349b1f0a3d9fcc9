import ApiTypings.Proofs.Typing.Calls

/-!
# Invariants of the nodes that are met

What is known of a node stays known of the nodes that are met on the way to its type,
also where the bodies of merged schemas lead to other components. Two contexts that
look up the same components on the way take a node apart into the same bodies.
-/

namespace ApiTypings
namespace Typing

open Component Document

namespace Task

variable {context : Context}

/-- Some nodes keep to themselves: types of nodes among them ask only for types of nodes
among them, and for bodies of certain nodes, which in turn do so. -/
structure Invariant (context : Context) (Typed Taken : Node → Prop) : Prop where
  inlined : ∀ {stack : List Pointer} {reference : Reference} {site : Site},
    Typed (.reference reference) →
      context.refer stack reference.target = .ok (.inlined site) → Typed site.node
  part : ∀ {schema : Schema} {part : Node},
    Typed (.inline schema) → part ∈ schema.parts → Typed part
  branch : ∀ {schema : Schema} {branches : List Node} {node : Node},
    Typed (.inline schema) → schema.allOf = some branches → node ∈ branches → Taken node
  followed : ∀ {reference next : Reference} {pointer : Pointer},
    Taken (.reference reference) →
      Catalog.parse reference.target context.location = .ok pointer →
      context.component pointer = .ok (.reference next) → Taken (.reference next)
  opened : ∀ {reference : Reference} {pointer : Pointer} {schema : Schema},
    Taken (.reference reference) →
      Catalog.parse reference.target context.location = .ok pointer →
      context.component pointer = .ok (.inline (.schema schema)) → Taken (.inline schema)
  own : ∀ {schema : Schema}, Taken (.inline schema) → Typed (.inline schema)

namespace Invariant

variable {Typed Taken : Node → Prop} (invariant : Invariant context Typed Taken)

include invariant

theorem taken_of_calls
    {outer : Site}
    {inner : Task}
    (calls : Calls context (.bodies outer) inner)
    (taken : Taken outer.node) :
    ∃ site, inner = .bodies site ∧ Taken site.node := by
  cases calls with
  | followed parsed _ found => exact ⟨_, rfl, invariant.followed taken parsed found⟩
  | opened parsed _ found => exact ⟨_, rfl, invariant.opened taken parsed found⟩
  | nested given member => exact ⟨_, rfl, invariant.branch (invariant.own taken) given member⟩

theorem taken_of_reaches
    {outer : Site}
    {inner : Task}
    (taken : Taken outer.node)
    (reached : Reaches context (.bodies outer) inner) :
    ∃ site, inner = .bodies site ∧ Taken site.node := by
  induction reached with
  | refl => exact ⟨outer, rfl, taken⟩
  | tail _ calls hypothesis =>
      obtain ⟨middle, rfl, takenThere⟩ := hypothesis
      exact invariant.taken_of_calls calls takenThere

/-- An invariant is kept from a type to the types that it asks for. -/
theorem typed_of_calls
    {outer inner : Site}
    (calls : Calls context (.type outer) (.type inner))
    (typed : Typed outer.node) :
    Typed inner.node := by
  cases calls with
  | inlined referred => exact invariant.inlined typed referred
  | part member => exact invariant.part typed member
  | merged given taken mentioned =>
      obtain ⟨body, listed, mentionedThere⟩ := Body.mentions_of_merge mentioned
      rcases mem_of_mergedBodies taken listed with fromBranch | rfl
      · obtain ⟨node, member, own, takenThere, inOwn⟩ := fromBranch
        obtain ⟨upper, origin, reached, rfl⟩ := exists_reached_of_mem_bodiesOf takenThere inOwn
        obtain ⟨part, inParts, rfl⟩ := exists_part_of_mentions mentionedThere
        have branch := invariant.branch typed given member
        obtain ⟨site, same, takenOrigin⟩ := invariant.taken_of_reaches branch reached
        cases same
        exact invariant.part (invariant.own takenOrigin) inParts
      · obtain ⟨part, inParts, rfl⟩ := exists_part_of_mentions mentionedThere
        exact invariant.part typed inParts

end Invariant

end Task

/-- Two contexts take a node apart alike, if they find the same components for all
references that are met. -/
theorem bodiesOf_congr
    {context other : Context}
    {Typed Taken : Node → Prop}
    (invariant : Task.Invariant context Typed Taken)
    (location : other.location = context.location)
    (nullable : ∀ schema : Schema,
      schema.isNullable other.options = schema.isNullable context.options)
    (components : ∀ reference pointer, Taken (.reference reference) →
      Catalog.parse reference.target context.location = .ok pointer →
      other.component pointer = context.component pointer)
    {site : Site}
    (taken : Taken site.node) :
    bodiesOf other site = bodiesOf context site := by
  induction site using Site.bodiesInduction context with
  | step site hypothesis =>
      have descend (inner : Site)
          (calls : Task.Calls context (.bodies site) (.bodies inner)) :
          bodiesOf other inner = bodiesOf context inner := by
        obtain ⟨_, ⟨⟩, takenThere⟩ := invariant.taken_of_calls calls taken
        exact hypothesis inner calls takenThere
      obtain ⟨stack, node⟩ := site
      cases node with
      | reference reference =>
          rw [bodiesOf_reference, bodiesOf_reference, location]
          cases parsed : Catalog.parse reference.target context.location with
          | error error => rfl
          | ok pointer =>
              by_cases opened : pointer ∈ stack
              · simp only [opened, if_true]
              · simp only [opened, if_false, components reference pointer taken parsed]
                cases found : context.component pointer with
                | error error => rfl
                | ok target =>
                    match target with
                    | .reference next => exact descend _ (.followed parsed opened found)
                    | .inline (.schema schema) => exact descend _ (.opened parsed opened found)
                    | .inline (.response response) => rfl
                    | .inline (.parameter parameter) => rfl
                    | .inline (.requestBody body) => rfl
      | inline schema =>
          rw [bodiesOf_inline, bodiesOf_inline, nullable]
          cases given : schema.allOf with
          | none => rfl
          | some branches =>
              have same : (fun (node : Node) (_ : node ∈ branches) => bodiesOf other ⟨stack, node⟩) =
                  fun (node : Node) (_ : node ∈ branches) => bodiesOf context ⟨stack, node⟩ := by
                funext node member
                exact descend _ (.nested given member)
              simp only [same]

end Typing
end ApiTypings
