import ApiTypings.Proofs.Typing.Unfolding

/-!
# Calls between sites

To find the type of a site, types and bodies of other sites are asked for. The
relation of a task to those that it asks for is well founded, also where
components refer to each other in a circle. On the way down pointers are pushed
on the stack, each at most once, and only those that some reference spells.
-/

namespace ApiTypings
namespace Typing

open Component Document TypeScript

/-- A pointer that can be met is spelled by a reference that can be met. -/
theorem Scope.exists_parse_of_mem_pointers
    {scope : Scope}
    {pointer : Pointer}
    (met : pointer ∈ scope.pointers) :
    ∃ target ∈ scope.references, Pointer.parse target = .ok pointer := by
  obtain ⟨target, occurs, spelled⟩ := List.mem_filterMap.mp met
  refine ⟨target, occurs, ?_⟩
  cases parsed : Pointer.parse target with
  | error problem => simp [parsed, Except.toOption] at spelled
  | ok found =>
      simp only [parsed, Except.toOption, Option.some.injEq] at spelled
      rw [spelled]

/-- An inlined site is the schema of a parameter to which a reference leads that has no
declaration, under the pointer of the reference. -/
theorem refer_inlined_cases
    {context : Context}
    {stack : List Pointer}
    {reference : String}
    {site : Site}
    (referred : context.refer stack reference = .ok (.inlined site)) :
    ∃ pointer component parameter node,
      Catalog.parse reference context.location = .ok pointer ∧
      context.catalog.declaredName? pointer = none ∧
      context.catalog.get? pointer.decoded = some component ∧
      context.target component = .ok (.parameter parameter) ∧
      parameter.schema = some node ∧ pointer ∉ stack ∧ site = ⟨pointer :: stack, node⟩ := by
  unfold Context.refer at referred
  split at referred
  · contradiction
  · rename_i parsed
    split at referred
    · contradiction
    · rename_i found
      split at referred
      · simp at referred
      · rename_i undeclared
        unfold Context.inlining at referred
        split at referred
        · simp at referred
        · rename_i closed
          split at referred
          · contradiction
          · rename_i reached
            simp only [Except.ok.injEq, Referral.inlined.injEq] at referred
            exact ⟨_, _, _, _, parsed, undeclared, Catalog.get?_of_find found, reached, rfl, closed,
              referred.symm⟩
          · simp at referred
          · contradiction

/-- What is asked for at a site: its type, or the bodies from which it can be
merged. -/
inductive Task
  | type (site : Site)
  | bodies (site : Site)

namespace Task

/-- The site of a task. -/
def site : Task → Site
  | .type site => site
  | .bodies site => site

/-- One task asks for another. -/
inductive Calls (context : Context) : Task → Task → Prop
  /-- The type of a reference is that of the parameter it leads to. -/
  | inlined
      {stack : List Pointer}
      {reference : Reference}
      {inner : Site}
      (referred : context.refer stack reference.target = .ok (.inlined inner)) :
      Calls context (.type ⟨stack, .reference reference⟩) (.type inner)
  /-- The type of a schema is made of those of its parts. -/
  | part
      {stack : List Pointer}
      {schema : Schema}
      {part : Node}
      (member : part ∈ schema.parts) :
      Calls context (.type ⟨stack, .inline schema⟩) (.type ⟨stack, part⟩)
  /-- The branches of a schema are taken apart into bodies. -/
  | branch
      {stack : List Pointer}
      {schema : Schema}
      {branches : List Node}
      {node : Node}
      (given : schema.allOf = some branches)
      (member : node ∈ branches) :
      Calls context (.type ⟨stack, .inline schema⟩) (.bodies ⟨stack, node⟩)
  /-- The type of merged branches is made of those of the members, wherever they
  come from. -/
  | merged
      {stack : List Pointer}
      {schema : Schema}
      {branches : List Node}
      {bodies : List Body}
      {inner : Site}
      (given : schema.allOf = some branches)
      (taken :
        (mergedBodies stack schema branches fun node _ => bodiesOf context ⟨stack, node⟩) =
          .ok (some bodies))
      (mentioned : (Body.merge bodies).Mentions inner) :
      Calls context (.type ⟨stack, .inline schema⟩) (.type inner)
  /-- A reference to an alias is followed, its pointer being expanded. -/
  | followed
      {stack : List Pointer}
      {reference next : Reference}
      {pointer : Pointer}
      (parsed : Catalog.parse reference.target context.location = .ok pointer)
      (closed : pointer ∉ stack)
      (found : context.component pointer = .ok (.reference next)) :
      Calls context (.bodies ⟨stack, .reference reference⟩)
        (.bodies ⟨pointer :: stack, .reference next⟩)
  /-- A reference to a schema is followed, its pointer being expanded. -/
  | opened
      {stack : List Pointer}
      {reference : Reference}
      {pointer : Pointer}
      {schema : Schema}
      (parsed : Catalog.parse reference.target context.location = .ok pointer)
      (closed : pointer ∉ stack)
      (found : context.component pointer = .ok (.inline (.schema schema))) :
      Calls context (.bodies ⟨stack, .reference reference⟩)
        (.bodies ⟨pointer :: stack, .inline schema⟩)
  /-- A schema that merges others is taken apart into those of its branches. -/
  | nested
      {stack : List Pointer}
      {schema : Schema}
      {branches : List Node}
      {node : Node}
      (given : schema.allOf = some branches)
      (member : node ∈ branches) :
      Calls context (.bodies ⟨stack, .inline schema⟩) (.bodies ⟨stack, node⟩)

/-- The reflexive and transitive closure of `Calls`. -/
abbrev Reaches (context : Context) : Task → Task → Prop :=
  Relation.ReflTransGen (Calls context)

variable {context : Context}

/-! ## The relation is well founded -/

/-- What a task asks for is below it. -/
theorem Calls.below
    {start : Node}
    {outer inner : Task}
    (calls : Calls context outer inner)
    (within : outer.site.Within (context.scope start)) :
    inner.site.Below (context.scope start) outer.site := by
  cases calls with
  | inlined referred => exact below_of_refer within referred
  | part member => exact .of_part within member
  | branch given member => exact .of_part within (Schema.mem_parts_of_allOf given member)
  | merged given taken mentioned =>
      rw [← branchBodies_eq within given] at taken
      exact below_of_branchBodies taken mentioned
  | followed parsed closed found =>
      exact .of_opened within parsed closed
        (Site.within_of_reference (Catalog.get?_of_find found))
  | opened parsed closed found =>
      exact .of_opened within parsed closed
        (Site.within_of_schema (Catalog.get?_of_find found))
  | nested given member => exact .of_part within (Schema.mem_parts_of_allOf given member)

/-- No task of a scope starts an infinite chain of calls. -/
theorem acc_of_within
    {start : Node}
    (task : Task)
    (within : task.site.Within (context.scope start)) :
    Acc (fun inner outer => Calls context outer inner) task :=
  Acc.intro task fun inner calls => acc_of_within inner (calls.below within).within
termination_by (task.site.unopened (context.scope start), sizeOf task.site.node)
decreasing_by exact (calls.below within).lex

/-- There is no infinite chain of calls. -/
theorem wellFounded_calls (context : Context) :
    WellFounded fun inner outer => Calls context outer inner :=
  ⟨fun task => acc_of_within task
    (Site.within_start context task.site.stack task.site.node)⟩

end Task

/-- What holds at a site whenever it holds at the sites whose types are asked
for, holds at all sites. -/
theorem Site.callInduction
    (context : Context)
    {motive : Site → Prop}
    (step : ∀ site, (∀ inner, Task.Calls context (.type site) (.type inner) → motive inner) →
      motive site)
    (site : Site) :
    motive site := by
  have general : ∀ task : Task, ∀ site, task = .type site → motive site := by
    intro task
    induction task using (Task.wellFounded_calls context).induction with
    | _ task hypothesis =>
        intro site same
        subst same
        exact step site fun inner calls => hypothesis (.type inner) calls inner rfl
  exact general (.type site) site rfl

/-- What holds at a site whenever it holds at the sites whose bodies are asked
for, holds at all sites. -/
theorem Site.bodiesInduction
    (context : Context)
    {motive : Site → Prop}
    (step : ∀ site, (∀ inner, Task.Calls context (.bodies site) (.bodies inner) → motive inner) →
      motive site)
    (site : Site) :
    motive site := by
  have general : ∀ task : Task, ∀ site, task = .bodies site → motive site := by
    intro task
    induction task using (Task.wellFounded_calls context).induction with
    | _ task hypothesis =>
        intro site same
        subst same
        exact step site fun inner calls => hypothesis (.bodies inner) calls inner rfl
  exact general (.bodies site) site rfl

namespace Task

/-! ## The stack -/

/-- A stack is another one with pointers of a scope pushed on it, none of them
twice. -/
inductive Extends (scope : Scope) : List Pointer → List Pointer → Prop
  | refl (stack : List Pointer) : Extends scope stack stack
  | push
      {pointer : Pointer}
      {stack base : List Pointer}
      (met : pointer ∈ scope.pointers)
      (closed : pointer ∉ stack)
      (extended : Extends scope stack base) :
      Extends scope (pointer :: stack) base

namespace Extends

variable {scope : Scope} {top middle base : List Pointer}

theorem trans (upper : Extends scope top middle) (lower : Extends scope middle base) :
    Extends scope top base := by
  induction upper with
  | refl stack => exact lower
  | push met closed _ hypothesis => exact .push met closed (hypothesis lower)

/-- Pushing keeps a stack free of duplicates. -/
theorem nodup (extended : Extends scope top base) (distinct : base.Nodup) : top.Nodup := by
  induction extended with
  | refl stack => exact distinct
  | push met closed _ hypothesis => exact List.nodup_cons.mpr ⟨closed, hypothesis distinct⟩

/-- What was pushed stands in front of what was there before. -/
theorem exists_pushed (extended : Extends scope top base) :
    ∃ pushed, top = pushed ++ base ∧ ∀ pointer ∈ pushed, pointer ∈ scope.pointers := by
  induction extended with
  | refl stack => exact ⟨[], rfl, by simp⟩
  | @push pointer stack base met closed _ hypothesis =>
      obtain ⟨pushed, rfl, fromScope⟩ := hypothesis
      refine ⟨pointer :: pushed, rfl, ?_⟩
      intro other member
      rcases List.mem_cons.mp member with same | earlier
      · exact same ▸ met
      · exact fromScope other earlier

/-- Following a reference of the scope pushes its pointer. -/
theorem of_parse
    {stack : List Pointer}
    {reference : Reference}
    {location : Option String}
    {pointer : Pointer}
    (within : Site.Within scope ⟨stack, .reference reference⟩)
    (parsed : Catalog.parse reference.target location = .ok pointer)
    (closed : pointer ∉ stack) :
    Extends scope (pointer :: stack) stack := by
  refine .push (Scope.mem_pointers (within _ ?_) parsed) closed (.refl stack)
  rw [Node.references_reference]
  exact List.mem_singleton_self _

end Extends

/-- Bodies that are merged come from a branch, or are those of the schema. -/
theorem mem_of_mergedBodies
    {stack : List Pointer}
    {schema : Schema}
    {branches : List Node}
    {bodiesOf : (node : Node) → node ∈ branches → Bodies}
    {bodies : List Body}
    {body : Body}
    (merged : mergedBodies stack schema branches bodiesOf = .ok (some bodies))
    (listed : body ∈ bodies) :
    (∃ node, ∃ member : node ∈ branches, ∃ own,
      bodiesOf node member = .ok (some own) ∧ body ∈ own) ∨
      body = Body.ofSchema stack schema := by
  unfold mergedBodies at merged
  split at merged
  · contradiction
  · simp at merged
  · rename_i gathered
    simp only [Except.ok.injEq, Option.some.injEq] at merged
    rw [← merged] at listed
    rcases List.mem_append.mp listed with inBranch | isSibling
    · exact .inl (mem_of_gather gathered inBranch)
    · right
      unfold siblings at isSibling
      split at isSibling
      · exact List.mem_singleton.mp isSibling
      · simp at isSibling

/-- A body of a site is that of a schema which is reached from the site. -/
theorem exists_reached_of_mem_bodiesOf
    {site : Site}
    {bodies : List Body}
    {body : Body}
    (taken : bodiesOf context site = .ok (some bodies))
    (listed : body ∈ bodies) :
    ∃ stack schema, Reaches context (.bodies site) (.bodies ⟨stack, .inline schema⟩) ∧
      body = Body.ofSchema stack schema := by
  -- The induction is along the calls, because a reference leaves the node.
  induction site using Site.bodiesInduction context generalizing bodies with
  | step site hypothesis =>
      have descend : ∀ inner own, Calls context (.bodies site) (.bodies inner) →
          bodiesOf context inner = .ok (some own) → body ∈ own →
          ∃ stack schema, Reaches context (.bodies site) (.bodies ⟨stack, .inline schema⟩) ∧
            body = Body.ofSchema stack schema := by
        intro inner own calls takenThere inOwn
        obtain ⟨stack, schema, reached, same⟩ := hypothesis inner calls takenThere inOwn
        exact ⟨stack, schema, .head calls reached, same⟩
      obtain ⟨stack, node⟩ := site
      cases node with
      | reference reference =>
          rw [bodiesOf_reference] at taken
          split at taken
          · contradiction
          · rename_i parsed
            split at taken
            · simp at taken
            · rename_i closed
              split at taken
              · contradiction
              · rename_i found
                exact descend _ _ (.followed parsed closed found) taken listed
              · rename_i found
                exact descend _ _ (.opened parsed closed found) taken listed
              · simp at taken
      | inline schema =>
          rw [bodiesOf_inline] at taken
          split at taken
          · simp only [Except.ok.injEq, Option.some.injEq] at taken
            rw [← taken, List.mem_singleton] at listed
            exact ⟨stack, schema, .refl, listed⟩
          · split at taken
            · split at taken
              · simp at taken
              · rename_i given
                rcases mem_of_mergedBodies taken listed with fromBranch | own
                · obtain ⟨node, member, own, takenThere, inOwn⟩ := fromBranch
                  exact descend _ _ (.nested given member) takenThere inOwn
                · exact ⟨stack, schema, .refl, own⟩
            · simp at taken

/-- A site that a body of a schema mentions is a part of the schema under the same
stack. -/
theorem exists_part_of_mentions
    {stack : List Pointer}
    {schema : Schema}
    {inner : Site}
    (mentioned : (Body.ofSchema stack schema).Mentions inner) :
    ∃ part ∈ schema.parts, inner = ⟨stack, part⟩ := by
  cases mentioned with
  | property name member =>
      simp only [Body.ofSchema, List.mem_map, Prod.mk.injEq, Prod.exists] at member
      obtain ⟨_, node, given, rfl, rfl⟩ := member
      exact ⟨node, Schema.mem_parts_of_property given, rfl⟩
  | additional given =>
      cases stated : schema.additional with
      | none => simp [Body.ofSchema, stated] at given
      | some further =>
          cases further with
          | allowed flag => simp [Body.ofSchema, stated] at given
          | typed node =>
              simp only [Body.ofSchema, stated, Option.map_some, Option.some.injEq,
                Additional.typed.injEq] at given
              exact ⟨node, Schema.mem_parts_of_additional stated, given.symm⟩

/-- Bodies ask for bodies only, and push at most one pointer. -/
theorem Calls.extends_of_bodies
    {scope : Scope}
    {outer : Site}
    {inner : Task}
    (calls : Calls context (.bodies outer) inner)
    (within : outer.Within scope) :
    ∃ site, inner = .bodies site ∧ Extends scope site.stack outer.stack := by
  cases calls with
  | followed parsed closed found => exact ⟨_, rfl, .of_parse within parsed closed⟩
  | opened parsed closed found => exact ⟨_, rfl, .of_parse within parsed closed⟩
  | nested given member => exact ⟨_, rfl, .refl _⟩

/-- All that is reached from bodies is bodies, with more pointers on the stack. -/
theorem extends_of_reaches_bodies
    {start : Node}
    {outer : Site}
    {inner : Task}
    (within : outer.Within (context.scope start))
    (reached : Reaches context (.bodies outer) inner) :
    ∃ site, inner = .bodies site ∧ site.Within (context.scope start) ∧
      Extends (context.scope start) site.stack outer.stack := by
  induction reached with
  | refl => exact ⟨outer, rfl, within, .refl _⟩
  | tail _ calls hypothesis =>
      obtain ⟨middle, rfl, withinMiddle, lower⟩ := hypothesis
      obtain ⟨site, rfl, upper⟩ := calls.extends_of_bodies withinMiddle
      exact ⟨site, rfl, (calls.below withinMiddle).within, upper.trans lower⟩

/-- What a task asks for has the same stack, or more pointers on it. -/
theorem Calls.extends
    {start : Node}
    {outer inner : Task}
    (calls : Calls context outer inner)
    (within : outer.site.Within (context.scope start)) :
    Extends (context.scope start) inner.site.stack outer.site.stack := by
  cases calls with
  | inlined referred =>
      obtain ⟨_, _, _, _, parsed, _, _, _, _, closed, rfl⟩ := refer_inlined_cases referred
      exact .of_parse within parsed closed
  | part member => exact .refl _
  | branch given member => exact .refl _
  | @merged stack schema branches bodies _ given taken mentioned =>
      obtain ⟨body, listed, mentionedThere⟩ := Body.mentions_of_merge mentioned
      rcases mem_of_mergedBodies taken listed with fromBranch | rfl
      · obtain ⟨node, member, own, takenThere, inOwn⟩ := fromBranch
        obtain ⟨upper, origin, reached, rfl⟩ := exists_reached_of_mem_bodiesOf takenThere inOwn
        obtain ⟨part, _, rfl⟩ := exists_part_of_mentions mentionedThere
        have branch := Site.Below.of_part within (Schema.mem_parts_of_allOf given member)
        obtain ⟨site, same, _, extended⟩ := extends_of_reaches_bodies branch.within reached
        cases same
        exact extended
      · obtain ⟨part, _, rfl⟩ := exists_part_of_mentions mentionedThere
        exact .refl _
  | followed parsed closed found => exact .of_parse within parsed closed
  | opened parsed closed found => exact .of_parse within parsed closed
  | nested given member => exact .refl _

/-- Along every chain of calls the stack grows by pointers of the scope. -/
theorem extends_of_reaches
    {start : Node}
    {outer inner : Task}
    (within : outer.site.Within (context.scope start))
    (reached : Reaches context outer inner) :
    inner.site.Within (context.scope start) ∧
      Extends (context.scope start) inner.site.stack outer.site.stack := by
  induction reached with
  | refl => exact ⟨within, .refl _⟩
  | tail _ calls hypothesis =>
      obtain ⟨withinMiddle, lower⟩ := hypothesis
      exact ⟨(calls.below withinMiddle).within, (calls.extends withinMiddle).trans lower⟩

end Task

/-! ## All recursion is by calls -/

namespace Visit

section Agreement

variable
    {context : Context}
    {start : Node}
    {stack : List Pointer}
    {schema : Schema}
    (within : Site.Within (context.scope start) ⟨stack, .inline schema⟩)
    {answers other : Site → Traced TypeExpr}
    (agree : ∀ inner, Task.Calls context (.type ⟨stack, .inline schema⟩) (.type inner) →
      answers inner = other inner)

include agree

theorem partTypes_congr (parts : List Node) (members : ∀ part ∈ parts, part ∈ schema.parts) :
    (Visit.mk start stack schema within fun inner _ => answers inner).partTypes parts members =
      (Visit.mk start stack schema within fun inner _ => other inner).partTypes parts members := by
  rw [partTypes_answers, partTypes_answers]
  congr 1
  apply List.map_congr_left
  intro part listed
  exact agree _ (.part (members part listed))

theorem ownType_congr :
    (Visit.mk start stack schema within fun inner _ => answers inner).ownType =
      (Visit.mk start stack schema within fun inner _ => other inner).ownType := by
  unfold ownType
  congr 1
  funext inner mentioned
  obtain ⟨part, member, rfl⟩ := Task.exists_part_of_mentions mentioned
  exact agree _ (.part member)

theorem arrayType_congr :
    (Visit.mk start stack schema within fun inner _ => answers inner).arrayType =
      (Visit.mk start stack schema within fun inner _ => other inner).arrayType := by
  unfold arrayType partType
  dsimp only
  split
  · rfl
  · rename_i given
    rw [agree _ (.part (Schema.mem_parts_of_items given))]

theorem plainType_congr :
    (Visit.mk start stack schema within fun inner _ => answers inner).plainType =
      (Visit.mk start stack schema within fun inner _ => other inner).plainType := by
  have forms :
      (Visit.mk start stack schema within fun inner _ => answers inner).formType =
        (Visit.mk start stack schema within fun inner _ => other inner).formType := by
    funext form
    cases form with
    | array => exact arrayType_congr within agree
    | object => exact ownType_congr within agree
    | keyword word => rfl
  unfold plainType
  rw [forms]

theorem mergeType_congr (branches : List Node) (given : schema.allOf = some branches) :
    (Visit.mk start stack schema within fun inner _ => answers inner).mergeType branches given =
      (Visit.mk start stack schema within fun inner _ => other inner).mergeType branches given := by
  rw [mergeType_answers, mergeType_answers]
  split
  · rfl
  · rename_i taken
    congr 2
    funext inner mentioned
    exact agree _ (.merged given taken mentioned)
  · have parts := partTypes_congr within agree branches
      fun _ member => Schema.mem_parts_of_allOf given member
    rw [partTypes_answers, partTypes_answers] at parts
    have own := ownType_congr within agree
    unfold ownType at own
    rw [parts]
    dsimp only at own
    rw [own]

theorem type_congr :
    (Visit.mk start stack schema within fun inner _ => answers inner).type =
      (Visit.mk start stack schema within fun inner _ => other inner).type := by
  have parts :
      (Visit.mk start stack schema within fun inner _ => answers inner).composedParts =
        (Visit.mk start stack schema within fun inner _ => other inner).composedParts := by
    unfold composedParts unionType
    simp only [mergeType_congr within agree, partTypes_congr within agree,
      ownType_congr within agree]
  unfold type
  rw [parts, plainType_congr within agree]

end Agreement

end Visit

/-- A step looks at no answers but those for the sites that it calls. -/
theorem typeStep_congr
    {context : Context}
    {start : Node}
    {site : Site}
    (within : site.Within (context.scope start))
    {answers other : Site → Traced TypeExpr}
    (agree : ∀ inner, Task.Calls context (.type site) (.type inner) →
      answers inner = other inner) :
    typeStep context start site within (fun inner _ => answers inner) =
      typeStep context start site within (fun inner _ => other inner) := by
  obtain ⟨stack, node⟩ := site
  cases node with
  | reference reference =>
      unfold typeStep referenceType
      dsimp only
      cases referred : context.refer stack reference.target with
      | error error => rfl
      | ok referral =>
          cases referral with
          | named name => rfl
          | unknown => rfl
          | inlined inner => exact agree inner (.inlined referred)
  | inline schema => exact Visit.type_congr within agree

/-- A step looks at no bodies but those of the sites that it calls. -/
theorem bodiesStep_congr
    {context : Context}
    {start : Node}
    {site : Site}
    (within : site.Within (context.scope start))
    {answers other : Site → Bodies}
    (agree : ∀ inner, Task.Calls context (.bodies site) (.bodies inner) →
      answers inner = other inner) :
    bodiesStep context start site within (fun inner _ => answers inner) =
      bodiesStep context start site within (fun inner _ => other inner) := by
  obtain ⟨stack, node⟩ := site
  cases node with
  | reference reference =>
      unfold bodiesStep
      dsimp only
      split
      · rfl
      · rename_i parsed
        split
        · rfl
        · rename_i closed
          split
          · rfl
          · rename_i found
            exact agree _ (.followed parsed closed found)
          · rename_i found
            exact agree _ (.opened parsed closed found)
          · rfl
  | inline schema =>
      unfold bodiesStep
      dsimp only
      split
      · rfl
      · split
        · split
          · rfl
          · rename_i given
            congr 1
            funext node member
            exact agree _ (.nested given member)
        · rfl

/-! ## Asking for a type ends -/

/-- From every node, under a stack without duplicates, no chain of calls is
infinite. Along every chain the stack has no duplicates, and what was pushed are
pointers that references of the components or of the node spell. These chains are
all the recursion there is: the answers of a site rest on those of the sites that
it calls. -/
theorem acc_calls_and_nodup_stack
    (context : Context)
    (stack : List Pointer)
    (node : Node)
    (distinct : stack.Nodup) :
    Acc (fun inner outer => Task.Calls context outer inner) (.type ⟨stack, node⟩) ∧
      (∀ task, Task.Reaches context (.type ⟨stack, node⟩) task →
        task.site.stack.Nodup ∧
          ∃ pushed, task.site.stack = pushed ++ stack ∧
            ∀ pointer ∈ pushed,
              ∃ target ∈ context.catalog.references ++ Node.references node,
                Pointer.parse target = .ok pointer) ∧
      (∀ (site : Site) (answers : Site → Traced TypeExpr),
        (∀ inner, Task.Calls context (.type site) (.type inner) →
          answers inner = typeOf context inner) →
        typeOf context site =
          typeStep context site.node site (Site.within_start context site.stack site.node)
            fun inner _ => answers inner) ∧
      (∀ (site : Site) (answers : Site → Bodies),
        (∀ inner, Task.Calls context (.bodies site) (.bodies inner) →
          answers inner = bodiesOf context inner) →
        bodiesOf context site =
          bodiesStep context site.node site (Site.within_start context site.stack site.node)
            fun inner _ => answers inner) := by
  refine ⟨(Task.wellFounded_calls context).apply _, ?_, ?_, ?_⟩
  · intro task reached
    have inScope : Site.Within (context.scope node) ⟨stack, node⟩ :=
      Site.within_start context stack node
    obtain ⟨_, extended⟩ := Task.extends_of_reaches inScope reached
    obtain ⟨pushed, same, met⟩ := extended.exists_pushed
    refine ⟨extended.nodup distinct, pushed, same, ?_⟩
    intro pointer member
    exact Scope.exists_parse_of_mem_pointers (met pointer member)
  · intro site answers agree
    rw [typeOf_eq_step]
    exact (typeStep_congr _ agree).symm
  · intro site answers agree
    rw [bodiesOf_eq_step]
    exact (bodiesStep_congr _ agree).symm

/-- A component that merges itself, asked for while it is being expanded. -/
theorem acc_calls_and_nodup_stack_of_self_merge :
    let pointer : Pointer := ⟨.schemas, "A"⟩
    let node : Node :=
      .inline { allOf := some [.reference ⟨"#/components/schemas/A", none⟩] }
    let context : Context := ⟨.ofDescription { components := { schemas := [("A", node)] } }, {}, none⟩
    [pointer].Nodup ∧
      ∀ task, Task.Reaches context (.type ⟨[pointer], node⟩) task → task.site.stack.Nodup := by
  intro pointer node context
  have distinct : [pointer].Nodup := by decide
  refine ⟨distinct, ?_⟩
  intro task reached
  exact ((acc_calls_and_nodup_stack context [pointer] node distinct).2.1 task reached).1

end Typing
end ApiTypings
