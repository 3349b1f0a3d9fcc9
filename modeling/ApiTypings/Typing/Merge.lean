import ApiTypings.Typing.Body

/-!
# Merging

The object bodies of the branches of `allOf`. References are followed; a branch
that is no object, or is being expanded already, cannot be merged.
-/

namespace ApiTypings
namespace Typing

open Component Document

/-- The bodies of a node, or nothing if it cannot be merged. -/
abbrev Bodies := Except ReferenceError (Option (List Body))

/-- The bodies of several nodes in order. The first one that cannot be merged
decides. -/
def gather {α : Type} :
    (items : List α) → ((item : α) → item ∈ items → Bodies) → Bodies
  | [], _ => .ok (some [])
  | item :: rest, bodiesOf =>
      match bodiesOf item List.mem_cons_self with
      | .error error => .error error
      | .ok none => .ok none
      | .ok (some bodies) =>
          match gather rest fun other member =>
              bodiesOf other (List.mem_cons_of_mem item member) with
          | .error error => .error error
          | .ok none => .ok none
          | .ok (some more) => .ok (some (bodies ++ more))

/-- A gathered body is one of an item. -/
theorem mem_of_gather
    {α : Type}
    {items : List α}
    {bodiesOf : (item : α) → item ∈ items → Bodies}
    {bodies : List Body}
    {body : Body}
    (gathered : gather items bodiesOf = .ok (some bodies))
    (listed : body ∈ bodies) :
    ∃ item, ∃ member : item ∈ items, ∃ own,
      bodiesOf item member = .ok (some own) ∧ body ∈ own := by
  induction items generalizing bodies with
  | nil =>
      simp only [gather, Except.ok.injEq, Option.some.injEq] at gathered
      simp [← gathered] at listed
  | cons item rest induction =>
      unfold gather at gathered
      split at gathered
      · contradiction
      · simp at gathered
      · rename_i own first
        split at gathered
        · contradiction
        · simp at gathered
        · rename_i more others
          simp only [Except.ok.injEq, Option.some.injEq] at gathered
          rw [← gathered] at listed
          cases List.mem_append.mp listed with
          | inl inOwn => exact ⟨item, List.mem_cons_self, own, first, inOwn⟩
          | inr inMore =>
              obtain ⟨other, member, found, same, inFound⟩ := induction others inMore
              exact ⟨other, List.mem_cons_of_mem item member, found, same, inFound⟩

/-- The body of the object keywords beside a composition, if there are any. -/
def siblings (stack : List Pointer) (schema : Schema) : List Body :=
  if schema.hasObjectKeywords then [Body.ofSchema stack schema] else []

/-- The bodies of a schema that merges others: those of its branches, and its
own. -/
def mergedBodies
    (stack : List Pointer)
    (schema : Schema)
    (branches : List Node)
    (bodiesOf : (node : Node) → node ∈ branches → Bodies) :
    Bodies :=
  match gather branches bodiesOf with
  | .error error => .error error
  | .ok none => .ok none
  | .ok (some bodies) => .ok (some (bodies ++ siblings stack schema))

/-- How the bodies of sites below a site are found. -/
abbrev Descent (scope : Scope) (site : Site) : Type :=
  (inner : Site) → inner.Below scope site → Bodies

/-- One step of taking a node apart into object bodies. -/
def bodiesStep
    (context : Context)
    (start : Node)
    (site : Site)
    (within : site.Within (context.scope start))
    (recurse : Descent (context.scope start) site) :
    Bodies :=
  match site, within, recurse with
  | ⟨stack, .reference reference⟩, within, recurse =>
      match parsed : Catalog.parse reference.target context.location with
      | .error error => .error error
      | .ok pointer =>
          if opened : pointer ∈ stack then .ok none
          else
            match found : context.component pointer with
            | .error error => .error error
            | .ok (.reference next) =>
                recurse ⟨pointer :: stack, .reference next⟩
                  (.of_opened within parsed opened
                    (Site.within_of_reference (Catalog.get?_of_find found)))
            | .ok (.inline (.schema schema)) =>
                recurse ⟨pointer :: stack, .inline schema⟩
                  (.of_opened within parsed opened
                    (Site.within_of_schema (Catalog.get?_of_find found)))
            | .ok (.inline _) => .ok none
  | ⟨stack, .inline schema⟩, within, recurse =>
      if schema.isPlainObject then .ok (some [Body.ofSchema stack schema])
      else if schema.isMerge && !schema.isNullable context.options then
        match given : schema.allOf with
        | none => .ok none
        | some branches =>
            mergedBodies stack schema branches fun node member =>
              recurse ⟨stack, node⟩ (.of_part within (Schema.mem_parts_of_allOf given member))
      else .ok none

/-- The bodies of the node at a site, or nothing if it cannot be merged. -/
def bodiesAt
    (context : Context)
    (start : Node)
    (site : Site)
    (within : site.Within (context.scope start)) :
    Bodies :=
  bodiesStep context start site within fun inner below =>
    bodiesAt context start inner below.within
termination_by (site.unopened (context.scope start), sizeOf site.node)
decreasing_by exact below.lex

/-- The bodies of the branches of a schema, and its own. -/
def branchBodies
    (context : Context)
    (start : Node)
    (stack : List Pointer)
    (schema : Schema)
    (branches : List Node)
    (within : Site.Within (context.scope start) ⟨stack, .inline schema⟩)
    (given : schema.allOf = some branches) :
    Bodies :=
  mergedBodies stack schema branches fun node member =>
    bodiesAt context start ⟨stack, node⟩
      (Site.Below.of_part within (Schema.mem_parts_of_allOf given member)).within

/-- What the merged bodies of a schema mention is below the schema, if that is
so of its branches. -/
theorem below_of_mem_mergedBodies
    {scope : Scope}
    {stack : List Pointer}
    {schema : Schema}
    {branches : List Node}
    {bodiesOf : (node : Node) → node ∈ branches → Bodies}
    {bodies : List Body}
    {body : Body}
    {site : Site}
    (within : Site.Within scope ⟨stack, .inline schema⟩)
    (branchesBelow : ∀ node member own, bodiesOf node member = .ok (some own) →
      ∀ body ∈ own, body.Mentions site → site.Below scope ⟨stack, .inline schema⟩)
    (merged : mergedBodies stack schema branches bodiesOf = .ok (some bodies))
    (listed : body ∈ bodies)
    (mentioned : body.Mentions site) :
    site.Below scope ⟨stack, .inline schema⟩ := by
  unfold mergedBodies at merged
  split at merged
  · contradiction
  · simp at merged
  · rename_i gathered
    simp only [Except.ok.injEq, Option.some.injEq] at merged
    rw [← merged] at listed
    cases List.mem_append.mp listed with
    | inl inBranch =>
        obtain ⟨node, member, own, same, inOwn⟩ := mem_of_gather gathered inBranch
        exact branchesBelow node member own same body inOwn mentioned
    | inr isSibling =>
        unfold siblings at isSibling
        split at isSibling
        · rw [List.mem_singleton.mp isSibling] at mentioned
          exact Body.below_of_mentions within mentioned
        · simp at isSibling

/-- What one step of taking a node apart finds is below the site, if that is so
of what the recursion finds. -/
theorem below_of_bodiesStep
    {context : Context}
    {start : Node}
    {outer : Site}
    {within : outer.Within (context.scope start)}
    {recurse : Descent (context.scope start) outer}
    {bodies : List Body}
    {body : Body}
    {site : Site}
    (innerBelow : ∀ inner below own, recurse inner below = .ok (some own) →
      ∀ body ∈ own, body.Mentions site → site.Below (context.scope start) inner)
    (taken : bodiesStep context start outer within recurse = .ok (some bodies))
    (listed : body ∈ bodies)
    (mentioned : body.Mentions site) :
    site.Below (context.scope start) outer := by
  obtain ⟨stack, node⟩ := outer
  unfold bodiesStep at taken
  cases node with
  | reference reference =>
      simp only at taken
      split at taken
      · contradiction
      · rename_i parsed
        split at taken
        · simp at taken
        · rename_i opened
          split at taken
          · contradiction
          · rename_i found
            exact (innerBelow _ _ bodies taken body listed mentioned).trans
              (.of_opened within parsed opened
                (Site.within_of_reference (Catalog.get?_of_find found)))
          · rename_i found
            exact (innerBelow _ _ bodies taken body listed mentioned).trans
              (.of_opened within parsed opened
                (Site.within_of_schema (Catalog.get?_of_find found)))
          · simp at taken
  | inline schema =>
      simp only at taken
      split at taken
      · simp only [Except.ok.injEq, Option.some.injEq] at taken
        rw [← taken, List.mem_singleton] at listed
        rw [listed] at mentioned
        exact Body.below_of_mentions within mentioned
      · split at taken
        · split at taken
          · simp at taken
          · rename_i given
            refine below_of_mem_mergedBodies within ?_ taken listed mentioned
            intro node member own same part inOwn mentionedThere
            exact (innerBelow _ _ own same part inOwn mentionedThere).trans
              (.of_part within (Schema.mem_parts_of_allOf given member))
        · simp at taken

/-- What the bodies of a site mention is below the site. -/
theorem below_of_mem_bodiesAt
    (context : Context)
    (start : Node)
    (outer : Site)
    (within : outer.Within (context.scope start))
    {bodies : List Body}
    {body : Body}
    {site : Site}
    (taken : bodiesAt context start outer within = .ok (some bodies))
    (listed : body ∈ bodies)
    (mentioned : body.Mentions site) :
    site.Below (context.scope start) outer := by
  rw [bodiesAt] at taken
  exact below_of_bodiesStep
    (fun inner below _ same _ inOwn mentionedThere =>
      below_of_mem_bodiesAt context start inner below.within same inOwn mentionedThere)
    taken listed mentioned
termination_by (outer.unopened (context.scope start), sizeOf outer.node)
decreasing_by exact below.lex

/-- What the bodies of the branches of a schema mention is below the schema. -/
theorem below_of_branchBodies
    {context : Context}
    {start : Node}
    {stack : List Pointer}
    {schema : Schema}
    {branches : List Node}
    {within : Site.Within (context.scope start) ⟨stack, .inline schema⟩}
    {given : schema.allOf = some branches}
    {bodies : List Body}
    {site : Site}
    (taken : branchBodies context start stack schema branches within given = .ok (some bodies))
    (mentioned : (Body.merge bodies).Mentions site) :
    site.Below (context.scope start) ⟨stack, .inline schema⟩ := by
  obtain ⟨body, listed, mentionedThere⟩ := Body.mentions_of_merge mentioned
  refine below_of_mem_mergedBodies within ?_ taken listed mentionedThere
  intro node member own same part inOwn mentionedHere
  exact (below_of_mem_bodiesAt context start _ _ same inOwn mentionedHere).trans
    (.of_part within (Schema.mem_parts_of_allOf given member))

end Typing
end ApiTypings
