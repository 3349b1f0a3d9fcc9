import ApiTypings.Typing.Schema
import Mathlib

/-!
# Unfolding the type of a site

The scope of a site serves only to show that the recursion ends: types and
bodies do not depend on the node whose type was asked for first. What is left
are equations that give the type of a site by the types of other sites.
-/

namespace ApiTypings
namespace Typing

open Component Document TypeScript

variable {context : Context}

/-- The bodies of the node at a site, or nothing if it cannot be merged. -/
def bodiesOf (context : Context) : Site → Bodies
  | ⟨stack, node⟩ => bodiesAt context node ⟨stack, node⟩ (Site.within_start context stack node)

/-! ## Bodies -/

/-- A step whose recursive answers depend on the site alone is the same in every
scope. -/
theorem bodiesStep_scope
    (answers : Site → Bodies)
    {start other : Node}
    {site : Site}
    (within : site.Within (context.scope start))
    (withinOther : site.Within (context.scope other)) :
    bodiesStep context start site within (fun inner _ => answers inner) =
      bodiesStep context other site withinOther (fun inner _ => answers inner) := by
  obtain ⟨stack, node⟩ := site
  cases node <;> rfl

/-- The bodies of a site are the same in every scope. -/
theorem bodiesAt_scope
    {start other : Node}
    {site : Site}
    (within : site.Within (context.scope start))
    (withinOther : site.Within (context.scope other)) :
    bodiesAt context start site within = bodiesAt context other site withinOther := by
  classical
  -- One function answers for both scopes, so that the steps can be compared.
  let answers : Site → Bodies := fun inner =>
    if inside : inner.Within (context.scope start) then bodiesAt context start inner inside
    else if inside : inner.Within (context.scope other) then bodiesAt context other inner inside
    else .ok none
  have first :
      (fun inner (below : inner.Below (context.scope start) site) =>
        bodiesAt context start inner below.within) = fun inner _ => answers inner := by
    funext inner below
    simp only [answers, dif_pos below.within]
  have second :
      (fun inner (below : inner.Below (context.scope other) site) =>
        bodiesAt context other inner below.within) = fun inner _ => answers inner := by
    funext inner below
    by_cases inside : inner.Within (context.scope start)
    · simp only [answers, dif_pos inside]
      exact (bodiesAt_scope inside below.within).symm
    · simp only [answers, dif_neg inside, dif_pos below.within]
  rw [bodiesAt, bodiesAt, first, second]
  exact bodiesStep_scope answers within withinOther
termination_by (site.unopened (context.scope other), sizeOf site.node)
decreasing_by exact below.lex

/-- In every scope the bodies of a site are `bodiesOf`. -/
theorem bodiesAt_eq
    {start : Node}
    {site : Site}
    (within : site.Within (context.scope start)) :
    bodiesAt context start site within = bodiesOf context site :=
  bodiesAt_scope within _

/-- The bodies of a site by one step. -/
theorem bodiesOf_eq_step (context : Context) (site : Site) :
    bodiesOf context site =
      bodiesStep context site.node site
        (Site.within_start context site.stack site.node)
        (fun inner _ => bodiesOf context inner) := by
  rw [bodiesOf, bodiesAt]
  congr 1
  funext inner below
  exact bodiesAt_eq below.within

/-- The bodies of a reference are those of the schema to which it leads. -/
theorem bodiesOf_reference (context : Context) (stack : List Pointer) (reference : Reference) :
    bodiesOf context ⟨stack, .reference reference⟩ =
      match Catalog.parse reference.target context.location with
      | .error error => .error error
      | .ok pointer =>
          if pointer ∈ stack then .ok none
          else
            match context.component pointer with
            | .error error => .error error
            | .ok (.reference next) => bodiesOf context ⟨pointer :: stack, .reference next⟩
            | .ok (.inline (.schema schema)) => bodiesOf context ⟨pointer :: stack, .inline schema⟩
            | .ok (.inline _) => .ok none := by
  rw [bodiesOf_eq_step]
  unfold bodiesStep
  dsimp only
  split
  · rename_i parsed
    simp only [parsed]
  · rename_i parsed
    simp only [parsed]
    split
    · rfl
    · split <;> rename_i found <;> simp only [found]

/-- The bodies of a schema: its own, or those of the branches that it merges. -/
theorem bodiesOf_inline (context : Context) (stack : List Pointer) (schema : Schema) :
    bodiesOf context ⟨stack, .inline schema⟩ =
      if schema.isPlainObject then .ok (some [Body.ofSchema stack schema])
      else if schema.isMerge && !schema.isNullable context.options then
        match schema.allOf with
        | none => .ok none
        | some branches =>
            mergedBodies stack schema branches fun node _ => bodiesOf context ⟨stack, node⟩
      else .ok none := by
  rw [bodiesOf_eq_step]
  unfold bodiesStep
  dsimp only
  split
  · rfl
  · split
    · split <;> rename_i given <;> simp only [given]
    · rfl

/-- The bodies of the branches of a schema by those of the single branches. -/
theorem branchBodies_eq
    {start : Node}
    {stack : List Pointer}
    {schema : Schema}
    {branches : List Node}
    (within : Site.Within (context.scope start) ⟨stack, .inline schema⟩)
    (given : schema.allOf = some branches) :
    branchBodies context start stack schema branches within given =
      mergedBodies stack schema branches fun node _ => bodiesOf context ⟨stack, node⟩ := by
  unfold branchBodies
  congr 1
  funext node member
  exact bodiesAt_eq _

/-! ## Types -/

/-- A visit of a schema at which the answers are the types of the sites. -/
def Visit.of (context : Context) (stack : List Pointer) (schema : Schema) : Visit context :=
  ⟨.inline schema, stack, schema, Site.within_start context stack (.inline schema),
    fun inner _ => typeOf context inner⟩

namespace Visit

section Answers

variable
    (answers : Site → Traced TypeExpr)
    {start : Node}
    {stack : List Pointer}
    {schema : Schema}
    (within : Site.Within (context.scope start) ⟨stack, .inline schema⟩)

/-- The types of parts, if the answers depend on the site alone. -/
theorem partTypes_answers (parts : List Node) (members : ∀ part ∈ parts, part ∈ schema.parts) :
    (Visit.mk start stack schema within fun inner _ => answers inner).partTypes parts members =
      Traced.sequence (parts.map fun part => answers ⟨stack, part⟩) := by
  unfold partTypes partType
  congr 1
  exact List.attach_map_val (f := fun part => answers ⟨stack, part⟩)

/-- The type of merged branches, if the answers depend on the site alone. -/
theorem mergeType_answers
    {branches : List Node}
    (given : schema.allOf = some branches) :
    (Visit.mk start stack schema within fun inner _ => answers inner).mergeType branches given =
      match mergedBodies stack schema branches fun node _ => bodiesOf context ⟨stack, node⟩ with
      | .error error => .fail error
      | .ok (some bodies) =>
          if branches.isEmpty && !schema.hasObjectKeywords then .done .unknown
          else (Body.merge bodies).type context.options fun site _ => answers site
      | .ok none => do
          let types ← Traced.sequence (branches.map fun node => answers ⟨stack, node⟩)
          if schema.hasMembers then
            let own ← (Body.ofSchema stack schema).type context.options fun site _ => answers site
            return .intersectionOf (types ++ [own])
          else return .intersectionOf types := by
  rw [← branchBodies_eq within given]
  unfold mergeType
  dsimp only
  split
  · rename_i taken
    simp only [taken]
  · rename_i taken
    simp only [taken]
  · rename_i taken
    simp only [taken]
    rw [partTypes_answers answers within]
    rfl

/-- The type of a schema is the same in every scope, if the answers depend on the
site alone. -/
theorem type_scope
    {other : Node}
    (withinOther : Site.Within (context.scope other) ⟨stack, .inline schema⟩) :
    (Visit.mk start stack schema within fun inner _ => answers inner).type =
      (Visit.mk other stack schema withinOther fun inner _ => answers inner).type := by
  have parts :
      (Visit.mk start stack schema within fun inner _ => answers inner).composedParts =
        (Visit.mk other stack schema withinOther fun inner _ => answers inner).composedParts := by
    unfold composedParts
    simp only [mergeType_answers]
    rfl
  unfold type
  rw [parts]
  rfl

end Answers

end Visit

/-- A step whose recursive answers depend on the site alone is the same in every
scope. -/
theorem typeStep_scope
    (answers : Site → Traced TypeExpr)
    {start other : Node}
    {site : Site}
    (within : site.Within (context.scope start))
    (withinOther : site.Within (context.scope other)) :
    typeStep context start site within (fun inner _ => answers inner) =
      typeStep context other site withinOther (fun inner _ => answers inner) := by
  obtain ⟨stack, node⟩ := site
  cases node with
  | reference reference => rfl
  | inline schema => exact Visit.type_scope answers within withinOther

/-- The type of a site is the same in every scope. -/
theorem typeAt_scope
    {start other : Node}
    {site : Site}
    (within : site.Within (context.scope start))
    (withinOther : site.Within (context.scope other)) :
    typeAt context start site within = typeAt context other site withinOther := by
  classical
  let answers : Site → Traced TypeExpr := fun inner =>
    if inside : inner.Within (context.scope start) then typeAt context start inner inside
    else if inside : inner.Within (context.scope other) then typeAt context other inner inside
    else .done .unknown
  have first :
      (fun inner (below : inner.Below (context.scope start) site) =>
        typeAt context start inner below.within) = fun inner _ => answers inner := by
    funext inner below
    simp only [answers, dif_pos below.within]
  have second :
      (fun inner (below : inner.Below (context.scope other) site) =>
        typeAt context other inner below.within) = fun inner _ => answers inner := by
    funext inner below
    by_cases inside : inner.Within (context.scope start)
    · simp only [answers, dif_pos inside]
      exact (typeAt_scope inside below.within).symm
    · simp only [answers, dif_neg inside, dif_pos below.within]
  rw [typeAt, typeAt, first, second]
  exact typeStep_scope answers within withinOther
termination_by (site.unopened (context.scope other), sizeOf site.node)
decreasing_by exact below.lex

/-- In every scope the type of a site is `typeOf`. -/
theorem typeAt_eq
    {start : Node}
    {site : Site}
    (within : site.Within (context.scope start)) :
    typeAt context start site within = typeOf context site :=
  typeAt_scope within _

/-- The type of a site by one step. -/
theorem typeOf_eq_step (context : Context) (site : Site) :
    typeOf context site =
      typeStep context site.node site
        (Site.within_start context site.stack site.node)
        (fun inner _ => typeOf context inner) := by
  rw [typeOf, typeAt]
  congr 1
  funext inner below
  exact typeAt_eq below.within

/-- The type of a reference is that of what it stands for. -/
theorem typeOf_reference (context : Context) (stack : List Pointer) (reference : Reference) :
    typeOf context ⟨stack, .reference reference⟩ =
      match context.refer stack reference.target with
      | .error error => .fail error
      | .ok (.named name) => .done (.reference name)
      | .ok .unknown => .done .unknown
      | .ok (.inlined site) => typeOf context site := by
  rw [typeOf_eq_step]
  unfold typeStep referenceType
  dsimp only
  split <;> rename_i referred <;> simp only [referred]

/-- A reference to a component schema stands for its declaration. -/
theorem refer_of_declared
    {context : Context}
    {reference name : String}
    {pointer : Pointer}
    {component : OrReference Target}
    (parsed : Catalog.parse reference context.location = .ok pointer)
    (found : context.catalog.get? pointer.decoded = some component)
    (declared : context.catalog.declaredName? pointer = some name)
    (stack : List Pointer) :
    context.refer stack reference = .ok (.named name) := by
  simp only [Context.refer, parsed, Context.component, Catalog.find, found, declared]

/-- The type of a schema is that of a visit to it. -/
theorem typeOf_inline (context : Context) (stack : List Pointer) (schema : Schema) :
    typeOf context ⟨stack, .inline schema⟩ = (Visit.of context stack schema).type :=
  typeOf_eq_step context ⟨stack, .inline schema⟩

end Typing
end ApiTypings
