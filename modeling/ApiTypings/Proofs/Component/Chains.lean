import ApiTypings.Component.Catalog
import Mathlib.Logic.Relation

/-!
# Chains of aliases

A component may be a reference to the next one. A chain of such aliases that ends at
an object never comes back to a reference that it has passed, so that following the
chain finds the object.
-/

namespace ApiTypings
namespace Component

open Document

/-- A reference spells the pointer of a component that is the next reference. -/
def AliasStep (catalog : Catalog) (reference next : String) : Prop :=
  ∃ pointer link, Pointer.parse reference = .ok pointer ∧
    catalog.get? pointer = some (.reference link) ∧ link.target = next

/-- A reference leads to an object, through finitely many aliases. -/
inductive Leads (catalog : Catalog) : String → Target → Prop
  | object
      {reference : String}
      {pointer : Pointer}
      {target : Target}
      (parsed : Pointer.parse reference = .ok pointer)
      (found : catalog.get? pointer = some (.inline target)) :
      Leads catalog reference target
  | step
      {reference next : String}
      {target : Target}
      (step : AliasStep catalog reference next)
      (rest : Leads catalog next target) :
      Leads catalog reference target

variable {catalog : Catalog}

theorem Catalog.resolve_eq_ok_iff
    {reference : String}
    {location : Option String}
    {pointer : Pointer}
    {component : OrReference Target} :
    catalog.resolve reference location = .ok (pointer, component) ↔
      Pointer.parse reference = .ok pointer ∧ catalog.get? pointer = some component := by
  unfold resolve parse find
  cases Pointer.parse reference with
  | error problem => simp [bind, Except.bind]
  | ok spelled =>
      cases stored : catalog.get? spelled with
      | none =>
          simp only [bind, Except.bind, stored, reduceCtorEq, Except.ok.injEq, false_iff, not_and]
          rintro rfl
          simp [stored]
      | some found =>
          simp only [bind, Except.bind, stored, pure, Except.pure, Except.ok.injEq, Prod.mk.injEq]
          constructor
          · rintro ⟨rfl, rfl⟩
            exact ⟨rfl, stored⟩
          · rintro ⟨rfl, same⟩
            exact ⟨rfl, Option.some.inj (stored.symm.trans same)⟩

/-- One step along a chain, from a reference that was not seen before. -/
theorem Catalog.follow_of_not_mem
    {seen : List String}
    {reference : String}
    (unseen : reference ∉ seen)
    (location : Option String) :
    catalog.follow location seen reference =
      match catalog.resolve reference location with
      | .error error => .error error
      | .ok (pointer, .inline target) => .ok (pointer, target)
      | .ok (_, .reference next) => catalog.follow location (reference :: seen) next.target := by
  rw [Catalog.follow, dif_neg unseen]
  split <;> rename_i resolved <;> simp only [resolved]

namespace AliasStep

/-- There is one next reference at most. -/
theorem unique
    {reference next other : String}
    (one : AliasStep catalog reference next)
    (another : AliasStep catalog reference other) :
    next = other := by
  obtain ⟨pointer, link, parsed, found, rfl⟩ := one
  obtain ⟨_, _, parsedThere, foundThere, rfl⟩ := another
  rw [parsed] at parsedThere
  cases parsedThere
  rw [found] at foundThere
  cases foundThere
  rfl

theorem resolve_eq
    {reference next : String}
    (step : AliasStep catalog reference next)
    (location : Option String) :
    ∃ pointer link, catalog.resolve reference location = .ok (pointer, .reference link) ∧
      link.target = next := by
  obtain ⟨pointer, link, parsed, found, same⟩ := step
  exact ⟨pointer, link, Catalog.resolve_eq_ok_iff.mpr ⟨parsed, found⟩, same⟩

end AliasStep

namespace Leads

/-- A chain that ends at an object does not come back to where it starts. -/
theorem not_circular
    {reference : String}
    {target : Target}
    (leads : Leads catalog reference target) :
    ¬ Relation.TransGen (AliasStep catalog) reference reference := by
  induction leads with
  | object parsed found =>
      intro circle
      obtain ⟨_, ⟨_, _, parsedThere, foundThere, _⟩, _⟩ := Relation.TransGen.head'_iff.mp circle
      rw [parsed] at parsedThere
      cases parsedThere
      rw [found] at foundThere
      cases foundThere
  | step step _ hypothesis =>
      intro circle
      obtain ⟨other, first, back⟩ := Relation.TransGen.head'_iff.mp circle
      -- The circle turns: it also leads from the next reference to itself.
      rw [← step.unique first] at back
      exact hypothesis (.tail' back step)

/-- Following a chain finds its object, if the chain was entered from all references
that were seen before. -/
theorem follow_of_seen
    {reference : String}
    {target : Target}
    (leads : Leads catalog reference target)
    {seen : List String}
    (behind : ∀ other ∈ seen, Relation.TransGen (AliasStep catalog) other reference)
    (location : Option String) :
    ∃ pointer, catalog.follow location seen reference = .ok (pointer, target) := by
  induction leads generalizing seen with
  | @object reference pointer target parsed found =>
      have unseen : reference ∉ seen := fun known =>
        (Leads.object parsed found).not_circular (behind reference known)
      have resolved : catalog.resolve reference location = .ok (pointer, .inline target) :=
        Catalog.resolve_eq_ok_iff.mpr ⟨parsed, found⟩
      refine ⟨pointer, ?_⟩
      rw [Catalog.follow_of_not_mem unseen, resolved]
  | @step reference next target step rest hypothesis =>
      have unseen : reference ∉ seen := fun known =>
        (Leads.step step rest).not_circular (behind reference known)
      have further : ∀ other ∈ reference :: seen,
          Relation.TransGen (AliasStep catalog) other next := by
        intro other member
        rcases List.mem_cons.mp member with rfl | known
        · exact .single step
        · exact (behind other known).tail step
      obtain ⟨pointer, followed⟩ := hypothesis further
      obtain ⟨place, link, resolved, rfl⟩ := step.resolve_eq location
      refine ⟨pointer, ?_⟩
      rw [Catalog.follow_of_not_mem unseen, resolved]
      exact followed

/-- Following a chain that ends at an object finds the object. -/
theorem follow
    {reference : String}
    {target : Target}
    (leads : Leads catalog reference target)
    (location : Option String) :
    ∃ pointer, catalog.follow location [] reference = .ok (pointer, target) :=
  leads.follow_of_seen (by simp) location

end Leads

end Component
end ApiTypings
