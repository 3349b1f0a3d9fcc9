import ApiTypings.Proofs.Component.Chains
import ApiTypings.Proofs.Component.Pointers

/-!
# Catalogs with the same outline

Two catalogs have the same outline if they list the same names. Such catalogs tell the
same references apart from those that lead nowhere, and following a reference ends
alike if they agree on the components on its way.
-/

namespace ApiTypings
namespace Component

open Document

/-- Two catalogs list components by the same names in the same order, and declare them
alike. -/
structure SameOutline (one other : Catalog) : Prop where
  names : one.names = other.names
  keys : ∀ ofSection, Entries.keys (one.entries ofSection) = Entries.keys (other.entries ofSection)

theorem Catalog.keys_schemas (catalog : Catalog) :
    Entries.keys (catalog.entries .schemas) =
      Entries.keys catalog.description.components.schemas := by
  simp [Catalog.entries, Entries.keys]

/-- Documents have the same outline if they list the same names and both have paths or
neither has. -/
theorem sameOutline_ofDescription
    {one other : Description}
    (keys : ∀ ofSection, Entries.keys ((Catalog.ofDescription one).entries ofSection) =
      Entries.keys ((Catalog.ofDescription other).entries ofSection))
    (paths : one.paths.isEmpty = other.paths.isEmpty) :
    SameOutline (.ofDescription one) (.ofDescription other) := by
  refine ⟨?_, keys⟩
  have schemas := keys .schemas
  rw [Catalog.keys_schemas, Catalog.keys_schemas] at schemas
  have listed : Entries.keys one.components.schemas = Entries.keys other.components.schemas :=
    schemas
  simp only [Catalog.ofDescription, paths, listed]

theorem Catalog.get?_eq_none_iff {catalog : Catalog} {pointer : Pointer} :
    catalog.get? pointer = none ↔
      pointer.name ∉ Entries.keys (catalog.entries pointer.ofSection) := by
  simp only [Catalog.get?, List.lookup_eq_none_iff, Entries.keys, List.mem_map, not_exists, not_and,
    bne_iff_ne]
  exact forall₂_congr fun _ _ => ne_comm

variable {one other : Catalog}

namespace SameOutline

variable (outline : SameOutline one other)

include outline

theorem declaredName? (pointer : Pointer) :
    one.declaredName? pointer = other.declaredName? pointer := by
  unfold Catalog.declaredName?
  rw [outline.names]

theorem available (ofSection : Section) : one.available ofSection = other.available ofSection := by
  unfold Catalog.available
  rw [outline.keys]

/-- The same components are missing. -/
theorem get?_eq_none_iff {pointer : Pointer} :
    one.get? pointer = none ↔ other.get? pointer = none := by
  rw [Catalog.get?_eq_none_iff, Catalog.get?_eq_none_iff, outline.keys]

theorem find_eq
    {pointer : Pointer}
    (agree : one.get? pointer = other.get? pointer)
    (reference : String)
    (location : Option String) :
    one.find reference location pointer = other.find reference location pointer := by
  unfold Catalog.find
  rw [agree, outline.available]

theorem resolve_eq
    {reference : String}
    (agree : ∀ pointer, Pointer.parse reference = .ok pointer →
      one.get? pointer = other.get? pointer)
    (location : Option String) :
    one.resolve reference location = other.resolve reference location := by
  unfold Catalog.resolve
  cases parsed : Catalog.parse reference location with
  | error error => rfl
  | ok pointer =>
      have same := agree pointer (Catalog.parse_eq_ok_iff.mp parsed)
      simp only [bind, Except.bind, outline.find_eq same]

end SameOutline

/-- A reference resolves to a component, directly or through aliases. `place` tells
where the component of a pointer is looked up. -/
inductive Resolves (catalog : Catalog) (place : Pointer → Pointer) : String → Pointer → Prop
  | direct
      {reference : String}
      {pointer : Pointer}
      (parsed : Pointer.parse reference = .ok pointer) :
      Resolves catalog place reference (place pointer)
  | through
      {reference : String}
      {pointer last : Pointer}
      {next : Reference}
      (parsed : Pointer.parse reference = .ok pointer)
      (found : catalog.get? (place pointer) = some (.reference next))
      (rest : Resolves catalog place next.target last) :
      Resolves catalog place reference last

/-- Following a reference ends at a component to which it resolves. -/
theorem resolves_of_follow
    {catalog : Catalog}
    {location : Option String}
    {seen : List String}
    {reference : String}
    {pointer : Pointer}
    {target : Target}
    (followed : catalog.follow location seen reference = .ok (pointer, target)) :
    Resolves catalog id reference pointer := by
  fun_induction Catalog.follow catalog location seen reference with
  | case1 => contradiction
  | case2 => contradiction
  | case3 _ _ _ _ _ resolved =>
      cases followed
      exact .direct (Catalog.resolve_eq_ok_iff.mp resolved).1
  | case4 _ _ _ _ _ resolved _ _ hypothesis =>
      obtain ⟨parsed, found⟩ := Catalog.resolve_eq_ok_iff.mp resolved
      exact .through parsed found (hypothesis followed)

/-- Following a reference ends alike in catalogs that agree on the components to which
it resolves. -/
theorem SameOutline.follow_eq
    (outline : SameOutline one other)
    {reference : String}
    (agree : ∀ pointer, Resolves one id reference pointer →
      one.get? pointer = other.get? pointer)
    (location : Option String)
    (seen : List String) :
    one.follow location seen reference = other.follow location seen reference := by
  have resolve (reference : String)
      (agree : ∀ pointer, Resolves one id reference pointer →
        one.get? pointer = other.get? pointer) :
      other.resolve reference location = one.resolve reference location :=
    (outline.resolve_eq (fun pointer parsed => agree pointer (.direct parsed)) location).symm
  fun_induction Catalog.follow one location seen reference with
  | case1 seen reference known => rw [Catalog.follow, dif_pos known]
  | case2 seen reference unseen error resolved =>
      rw [Catalog.follow_of_not_mem unseen, resolve reference agree, resolved]
  | case3 seen reference unseen pointer target resolved =>
      rw [Catalog.follow_of_not_mem unseen, resolve reference agree, resolved]
  | case4 seen reference unseen pointer next resolved _ _ hypothesis =>
      obtain ⟨parsed, found⟩ := Catalog.resolve_eq_ok_iff.mp resolved
      rw [Catalog.follow_of_not_mem unseen, resolve reference agree, resolved]
      exact hypothesis fun place resolves => agree place (.through parsed found resolves)

end Component
end ApiTypings
