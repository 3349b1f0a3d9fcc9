import ApiTypings.Proofs.Component.Chains
import ApiTypings.Proofs.Document.Matching
import ApiTypings.Proofs.Typing.Calls
import ApiTypings.Proofs.Typing.Cases
import ApiTypings.Proofs.Typing.Results

/-!
# Matching nodes have the same type

Two catalogs match if they have components that match under the same pointers, and the same
names for declarations. Nodes that match then have the same type, or fail alike.
-/

namespace ApiTypings
namespace Component

open Document

/-- Two components that are no references match. -/
inductive Target.Matches (detail : Detail) : Target → Target → Prop
  | schema {one other : Schema} (same : one.Matches detail other) :
      Matches detail (.schema one) (.schema other)
  | response {one other : Response} (same : one.Matches detail other) :
      Matches detail (.response one) (.response other)
  | parameter {one other : Parameter} (same : one.Matches detail other) :
      Matches detail (.parameter one) (.parameter other)
  | requestBody {one other : RequestBody} (same : one.Matches detail other) :
      Matches detail (.requestBody one) (.requestBody other)

/-- Two components match. -/
abbrev ComponentMatches (detail : Detail) : OrReference Target → OrReference Target → Prop :=
  OrReference.Matches detail (Target.Matches detail)

/-- Two catalogs have components that match under the same pointers. -/
structure Catalog.Matches (detail : Detail) (one other : Catalog) : Prop where
  component : ∀ pointer, Option.Rel (ComponentMatches detail) (one.get? pointer) (other.get? pointer)
  available : ∀ ofSection, other.available ofSection = one.available ofSection
  declared : ∀ pointer, other.declaredName? pointer = one.declaredName? pointer

namespace Catalog.Matches

variable {detail : Detail} {one other : Catalog} (same : one.Matches detail other)

include same

theorem find (reference : String) (location : Option String) (pointer : Pointer) :
    Corresponds (ComponentMatches detail) (one.find reference location pointer)
      (other.find reference location pointer) := by
  have related := same.component pointer
  unfold Catalog.find
  rw [same.available]
  generalize one.get? pointer = left at related
  generalize other.get? pointer = right at related
  cases related with
  | none => exact .error _
  | some both => exact .ok both

theorem resolve (reference : String) (location : Option String) :
    Corresponds (fun left right => right.1 = left.1 ∧ ComponentMatches detail left.2 right.2)
      (one.resolve reference location) (other.resolve reference location) := by
  unfold Catalog.resolve
  cases Catalog.parse reference location with
  | error error => exact .error error
  | ok pointer =>
      have found := same.find reference location pointer
      dsimp only [bind, Except.bind]
      generalize one.find reference location pointer = left at found
      generalize other.find reference location pointer = right at found
      cases found with
      | error error => exact .error error
      | ok both => exact .ok ⟨rfl, both⟩

/-- Following a reference ends at targets that match. -/
theorem follow (location : Option String) (seen : List String) (reference : String) :
    Corresponds (fun left right => right.1 = left.1 ∧ left.2.Matches detail right.2)
      (one.follow location seen reference) (other.follow location seen reference) := by
  fun_induction Catalog.follow one location seen reference with
  | case1 seen reference known =>
      rw [Catalog.follow, dif_pos known]
      exact .error _
  | case2 seen reference unseen error resolved =>
      rw [Catalog.follow_of_not_mem unseen, (same.resolve reference location).eq_error resolved]
      exact .error error
  | case3 seen reference unseen pointer target resolved =>
      obtain ⟨⟨_, component⟩, resolvedToo, rfl, matching⟩ :=
        (same.resolve reference location).exists_ok resolved
      rw [Catalog.follow_of_not_mem unseen, resolvedToo]
      cases matching with
      | inline same => exact .ok ⟨rfl, same⟩
  | case4 seen reference unseen pointer next resolved _ _ hypothesis =>
      obtain ⟨⟨_, component⟩, resolvedToo, rfl, matching⟩ :=
        (same.resolve reference location).exists_ok resolved
      rw [Catalog.follow_of_not_mem unseen, resolvedToo]
      cases matching with
      | reference target =>
          dsimp only
          rw [target]
          exact hypothesis

end Catalog.Matches

end Component

namespace Typing

open Component Document TypeScript

/-! ## Options and contexts -/

/-- Two runs differ at most in whether declarations are sorted. If only types are looked at,
they write no comments. -/
structure OptionsFit (detail : Detail) (one other : Options) : Prop where
  same : other = { one with alphabetize := other.alphabetize }
  quiet : detail = .bare → one.includeDescriptions = false ∧ one.includeExamples = false

/-- Two contexts have catalogs that match. -/
structure Context.Matches (detail : Detail) (context another : Context) : Prop where
  catalogs : context.catalog.Matches detail another.catalog
  options : OptionsFit detail context.options another.options
  location : another.location = context.location

/-- The comments on nodes that match are the same. -/
theorem describe_of_matches
    {detail : Detail}
    {one other : Options}
    (fit : OptionsFit detail one other)
    {node another : Node}
    (same : Node.Matches detail node another) :
    describe other another = describe one node := by
  rw [fit.same]
  cases same with
  | reference target description =>
      unfold describe
      dsimp only
      cases detail with
      | annotated => rw [description rfl]
      | bare => simp [(fit.quiet rfl).1]
  | @inline schema twin matching =>
      cases matching with
      | mk frame remark =>
          unfold describe
          dsimp only
          cases detail with
          | annotated =>
              have remarks := remark rfl
              simp only [Schema.remark, Prod.mk.injEq] at remarks
              obtain ⟨description, sample, deprecated⟩ := remarks
              rw [description, sample, deprecated]
          | bare => simp [(fit.quiet rfl).1, (fit.quiet rfl).2]

/-! ## Sites and references -/

/-- Two sites have nodes that match, and the same pointers are being expanded. -/
structure Site.Matches (detail : Detail) (site another : Site) : Prop where
  stack : another.stack = site.stack
  node : Node.Matches detail site.node another.node

/-- Two references stand for the same. -/
inductive Referral.Matches (detail : Detail) : Referral → Referral → Prop
  | named (name : String) : Matches detail (.named name) (.named name)
  | unknown : Matches detail .unknown .unknown
  | inlined {site another : Site} (same : site.Matches detail another) :
      Matches detail (.inlined site) (.inlined another)

section References

variable {detail : Detail} {context another : Context} (same : context.Matches detail another)

include same

theorem component_of_matches (pointer : Pointer) :
    Corresponds (ComponentMatches detail) (context.component pointer)
      (another.component pointer) := by
  unfold Context.component
  rw [same.location]
  exact same.catalogs.find _ _ _

theorem target_of_matches
    {component twin : OrReference Target}
    (matching : ComponentMatches detail component twin) :
    Corresponds (Target.Matches detail) (context.target component) (another.target twin) := by
  cases matching with
  | inline matching => exact .ok matching
  | reference target =>
      unfold Context.target
      dsimp only
      rw [same.location, target]
      exact (same.catalogs.follow _ _ _).map fun _ _ _ _ both => both.2

theorem inlining_of_matches
    (stack : List Pointer)
    (reference : String)
    (pointer : Pointer)
    {component twin : OrReference Target}
    (matching : ComponentMatches detail component twin) :
    Corresponds (Referral.Matches detail)
      (context.inlining stack reference pointer component)
      (another.inlining stack reference pointer twin) := by
  have targets := target_of_matches same matching
  unfold Context.inlining
  rw [same.location]
  by_cases opened : pointer ∈ stack
  · rw [if_pos opened, if_pos opened]
    exact .ok .unknown
  · rw [if_neg opened, if_neg opened]
    generalize context.target component = left at targets
    generalize another.target twin = right at targets
    cases targets with
    | error error => exact .error error
    | ok both =>
        cases both with
        | schema | response | requestBody => exact .error _
        | @parameter parameter twin matching =>
            have schemas := matching.schema
            obtain ⟨_, _, _, _, _, schema, _⟩ := parameter
            obtain ⟨_, _, _, _, _, schemaToo, _⟩ := twin
            dsimp only at schemas
            cases schemas with
            | none => exact .ok .unknown
            | some nodes => exact .ok (.inlined ⟨rfl, nodes⟩)

/-- A reference stands for the same in contexts that match. -/
theorem refer_of_matches (stack : List Pointer) (reference : String) :
    Corresponds (Referral.Matches detail) (context.refer stack reference)
      (another.refer stack reference) := by
  unfold Context.refer
  rw [same.location]
  cases Catalog.parse reference context.location with
  | error error => exact .error error
  | ok pointer =>
      have components := component_of_matches same pointer
      dsimp only
      rw [same.catalogs.declared]
      generalize context.component pointer = left at components
      generalize another.component pointer = right at components
      cases components with
      | error error => exact .error error
      | ok matching =>
          dsimp only
          cases context.catalog.declaredName? pointer with
          | some name => exact .ok (.named name)
          | none => exact inlining_of_matches same stack reference pointer matching

end References

/-! ## Bodies -/

/-- Two bodies have members whose sites match. -/
structure Body.Matches (detail : Detail) (body another : Body) : Prop where
  properties : List.Forall₂ (Named (Site.Matches detail)) body.properties another.properties
  required : another.required = body.required
  additional :
    Option.Rel (Additional.Matches (Site.Matches detail)) body.additional another.additional

theorem forall₂_put
    {κ α β : Type}
    [BEq κ]
    {Related : α → β → Prop}
    {entries : List (κ × α)}
    {others : List (κ × β)}
    (each : List.Forall₂ (Named Related) entries others)
    (key : κ)
    {value : α}
    {other : β}
    (related : Related value other) :
    List.Forall₂ (Named Related) (Entries.put entries key value)
      (Entries.put others key other) := by
  induction each with
  | nil => exact .cons (.mk key related) .nil
  | cons named rest hypothesis =>
      cases named with
      | mk name both =>
          unfold Entries.put
          dsimp only
          split
          · exact .cons (.mk key related) rest
          · exact .cons (.mk name both) hypothesis

theorem forall₂_ofPairs
    {κ α β : Type}
    [BEq κ]
    {Related : α → β → Prop}
    {pairs : List (κ × α)}
    {others : List (κ × β)}
    (each : List.Forall₂ (Named Related) pairs others) :
    List.Forall₂ (Named Related) (Entries.ofPairs pairs) (Entries.ofPairs others) := by
  have onto {start : List (κ × α)} {startToo : List (κ × β)}
      (before : List.Forall₂ (Named Related) start startToo) :
      List.Forall₂ (Named Related)
        (pairs.foldl (fun entries pair => Entries.put entries pair.1 pair.2) start)
        (others.foldl (fun entries pair => Entries.put entries pair.1 pair.2) startToo) := by
    induction each generalizing start startToo with
    | nil => exact before
    | cons named _ hypothesis =>
        cases named with
        | mk name both => exact hypothesis (forall₂_put before name both)
  exact onto .nil

theorem optionRel_getLast?
    {α β : Type}
    {Related : α → β → Prop}
    {items : List α}
    {others : List β}
    (each : List.Forall₂ Related items others) :
    Option.Rel Related items.getLast? others.getLast? := by
  induction each with
  | nil => exact .none
  | cons related rest hypothesis =>
      cases rest with
      | nil => exact .some related
      | cons _ _ =>
          rw [List.getLast?_cons_cons, List.getLast?_cons_cons]
          exact hypothesis

namespace Body

variable {detail : Detail}

theorem matches_ofSchema
    (stack : List Pointer)
    {schema twin : Schema}
    (same : schema.Matches detail twin) :
    (ofSchema stack schema).Matches detail (ofSchema stack twin) where
  properties := by
    unfold ofSchema
    rw [List.forall₂_map_left_iff, List.forall₂_map_right_iff]
    refine same.properties.imp ?_
    rintro _ _ ⟨name, nodes⟩
    exact .mk name ⟨rfl, nodes⟩
  required := same.required
  additional := by
    have further := same.additional
    unfold ofSchema
    dsimp only
    generalize schema.additional = left at further
    generalize twin.additional = right at further
    cases further with
    | none => exact .none
    | some both =>
        cases both with
        | allowed flag => exact .some (.allowed flag)
        | typed nodes => exact .some (.typed ⟨rfl, nodes⟩)

theorem matches_merge
    {bodies others : List Body}
    (each : List.Forall₂ (Matches detail) bodies others) :
    (merge bodies).Matches detail (merge others) where
  properties := by
    apply forall₂_ofPairs
    exact List.rel_flatMap each fun _ _ both => both.properties
  required := by
    unfold merge
    dsimp only
    induction each with
    | nil => rfl
    | cons both _ hypothesis => rw [List.flatMap_cons, List.flatMap_cons, both.required, hypothesis]
  additional := by
    apply optionRel_getLast?
    exact List.rel_filterMap (fun _ _ both => both.additional) each

theorem emptyValue_of_matches
    {body another : Body}
    (same : body.Matches detail another) :
    another.emptyValue = body.emptyValue := by
  have further := same.additional
  unfold emptyValue
  generalize body.additional = left at further
  generalize another.additional = right at further
  cases further with
  | none => rfl
  | some both => cases both <;> rfl

end Body

/-- Nodes are taken apart into bodies that match, or cannot be merged. -/
abbrev BodiesMatch (detail : Detail) : Bodies → Bodies → Prop :=
  Corresponds (Option.Rel (List.Forall₂ (Body.Matches detail)))

theorem gather_of_matches
    {detail : Detail}
    {items others : List Node}
    {bodies bodiesToo : Node → Bodies}
    (each : List.Forall₂ (fun item other => BodiesMatch detail (bodies item) (bodiesToo other))
      items others) :
    BodiesMatch detail (gather items fun item _ => bodies item)
      (gather others fun item _ => bodiesToo item) := by
  induction each with
  | nil => exact .ok (.some .nil)
  | cons both _ hypothesis =>
      unfold gather
      dsimp only
      generalize bodies _ = left at both ⊢
      generalize bodiesToo _ = right at both ⊢
      cases both with
      | error error => exact .error error
      | ok found =>
          cases found with
          | none => exact .ok .none
          | some first =>
              dsimp only
              generalize gather _ _ = rest at hypothesis ⊢
              generalize gather _ _ = restToo at hypothesis ⊢
              cases hypothesis with
              | error error => exact .error error
              | ok more =>
                  cases more with
                  | none => exact .ok .none
                  | some several => exact .ok (.some (List.rel_append first several))

theorem mergedBodies_of_matches
    {detail : Detail}
    (stack : List Pointer)
    {schema twin : Schema}
    (same : schema.Matches detail twin)
    {branches others : List Node}
    {bodies bodiesToo : Node → Bodies}
    (each : List.Forall₂ (fun item other => BodiesMatch detail (bodies item) (bodiesToo other))
      branches others) :
    BodiesMatch detail (mergedBodies stack schema branches fun node _ => bodies node)
      (mergedBodies stack twin others fun node _ => bodiesToo node) := by
  have gathered := gather_of_matches each
  have own : List.Forall₂ (Body.Matches detail) (siblings stack schema) (siblings stack twin) := by
    unfold siblings
    rw [same.hasObjectKeywords]
    split
    · exact .cons (Body.matches_ofSchema stack same) .nil
    · exact .nil
  unfold mergedBodies
  generalize gather branches _ = left at gathered
  generalize gather others _ = right at gathered
  cases gathered with
  | error error => exact .error error
  | ok found =>
      cases found with
      | none => exact .ok .none
      | some several => exact .ok (.some (List.rel_append several own))

section Types

variable {detail : Detail} {context another : Context} (same : context.Matches detail another)

include same

theorem isNullable_of_matches {schema twin : Schema} (matching : schema.Matches detail twin) :
    twin.isNullable another.options = schema.isNullable context.options := by
  rw [matching.isNullable, same.options.same]
  rfl

theorem bodiesOf_reference_of_matches
    {stack : List Pointer}
    {reference other : Reference}
    (target : other.target = reference.target)
    (hypothesis : ∀ inner,
      Task.Calls context (.bodies ⟨stack, .reference reference⟩) (.bodies inner) →
      ∀ other, inner.Matches detail other →
        BodiesMatch detail (bodiesOf context inner) (bodiesOf another other)) :
    BodiesMatch detail (bodiesOf context ⟨stack, .reference reference⟩)
      (bodiesOf another ⟨stack, .reference other⟩) := by
  rw [bodiesOf_reference, bodiesOf_reference, same.location, target]
  cases parsed : Catalog.parse reference.target context.location with
  | error error => exact .error error
  | ok pointer =>
      dsimp only
      by_cases opened : pointer ∈ stack
      · rw [if_pos opened, if_pos opened]
        exact .ok .none
      · rw [if_neg opened, if_neg opened]
        have components := component_of_matches same pointer
        cases found : context.component pointer with
        | error error =>
            rw [components.eq_error found]
            exact .error error
        | ok component =>
            obtain ⟨twin, foundToo, both⟩ := components.exists_ok found
            rw [foundToo]
            cases both with
            | reference target description =>
                exact hypothesis _ (.followed parsed opened found) _
                  ⟨rfl, .reference target description⟩
            | inline both =>
                cases both with
                | schema schemas =>
                    exact hypothesis _ (.opened parsed opened found) _ ⟨rfl, .inline schemas⟩
                | _ => exact .ok .none

theorem bodiesOf_inline_of_matches
    {stack : List Pointer}
    {schema twin : Schema}
    (matching : schema.Matches detail twin)
    (hypothesis : ∀ inner,
      Task.Calls context (.bodies ⟨stack, .inline schema⟩) (.bodies inner) →
      ∀ other, inner.Matches detail other →
        BodiesMatch detail (bodiesOf context inner) (bodiesOf another other)) :
    BodiesMatch detail (bodiesOf context ⟨stack, .inline schema⟩)
      (bodiesOf another ⟨stack, .inline twin⟩) := by
  rw [bodiesOf_inline, bodiesOf_inline, matching.isPlainObject, matching.isMerge,
    isNullable_of_matches same matching]
  by_cases plain : schema.isPlainObject = true
  · rw [if_pos plain, if_pos plain]
    exact .ok (.some (.cons (Body.matches_ofSchema stack matching) .nil))
  · rw [if_neg plain, if_neg plain]
    by_cases merges : (schema.isMerge && !schema.isNullable context.options) = true
    · rw [if_pos merges, if_pos merges]
      cases given : schema.allOf with
      | none =>
          rw [eq_none_of_rel matching.allOf given]
          exact .ok .none
      | some branches =>
          obtain ⟨others, givenToo, each⟩ := exists_some_of_rel matching.allOf given
          rw [givenToo]
          apply mergedBodies_of_matches stack matching
          apply forall₂_mono_of_mem each
          intro branch member other nodes
          exact hypothesis _ (.nested given member) _ ⟨rfl, nodes⟩
    · rw [if_neg merges, if_neg merges]
      exact .ok .none

/-- Nodes that match are taken apart alike. -/
theorem bodiesOf_of_matches {site twin : Site} (matching : site.Matches detail twin) :
    BodiesMatch detail (bodiesOf context site) (bodiesOf another twin) := by
  induction site using Site.bodiesInduction context generalizing twin with
  | step site hypothesis =>
      obtain ⟨_, node⟩ := site
      obtain ⟨stack, nodeToo⟩ := twin
      obtain ⟨rfl, nodes⟩ := matching
      dsimp only at nodes ⊢
      cases nodes with
      | reference target _ =>
          exact bodiesOf_reference_of_matches same target fun inner calls _ => hypothesis inner calls
      | inline matching =>
          exact bodiesOf_inline_of_matches same matching fun inner calls _ => hypothesis inner calls

/-! ## Types -/

theorem propertyMember_of_matches
    {body twin : Body}
    (required : twin.required = body.required)
    {name : String}
    {site other : Site}
    (matching : site.Matches detail other)
    (types : typeOf another other = typeOf context site) :
    propertyMember another twin (name, other) = propertyMember context body (name, site) := by
  unfold propertyMember
  dsimp only
  rw [describe_of_matches same.options matching.node, types, required, same.options.same]

theorem bodyType_of_matches
    {body twin : Body}
    (matching : body.Matches detail twin)
    (types : ∀ site, body.Mentions site → ∀ other, site.Matches detail other →
      typeOf another other = typeOf context site) :
    bodyType another twin = bodyType context body := by
  have members : twin.properties.map (propertyMember another twin) =
      body.properties.map (propertyMember context body) := by
    refine map_eq_map_of_forall₂ (fun _ _ both => both)
      (forall₂_mono_of_mem matching.properties ?_)
    rintro entry listed _ ⟨name, sites⟩
    exact propertyMember_of_matches same matching.required sites
      (types _ (.property name listed) _ sites)
  have further : indexType another twin = indexType context body := by
    unfold indexType
    rw [same.options.same]
    cases given : body.additional with
    | none => rw [eq_none_of_rel matching.additional given]
    | some stated =>
        obtain ⟨other, givenToo, both⟩ := exists_some_of_rel matching.additional given
        rw [givenToo]
        cases both with
        | allowed flag => rfl
        | typed sites =>
            dsimp only
            rw [types _ (.additional given) _ sites]
  unfold bodyType
  rw [members, further, Body.emptyValue_of_matches matching, same.options.same]

section Schema

variable
    {stack : List Pointer}
    {schema twin : Schema}
    (matching : schema.Matches detail twin)
    (types : ∀ inner, Task.Calls context (.type ⟨stack, .inline schema⟩) (.type inner) →
      ∀ other, inner.Matches detail other → typeOf another other = typeOf context inner)

include matching types

theorem ownType_of_matches :
    bodyType another (Body.ofSchema stack twin) = bodyType context (Body.ofSchema stack schema) := by
  apply bodyType_of_matches same (Body.matches_ofSchema stack matching)
  intro inner mentioned
  obtain ⟨part, member, rfl⟩ := Task.exists_part_of_mentions mentioned
  exact types _ (.part member)

omit same matching in
theorem nodeTypes_of_matches
    {nodes others : List Node}
    (members : ∀ node ∈ nodes, node ∈ schema.parts)
    (each : List.Forall₂ (Node.Matches detail) nodes others) :
    nodeTypes another stack others = nodeTypes context stack nodes := by
  unfold nodeTypes
  refine congrArg Traced.sequence (map_eq_map_of_forall₂ (fun _ _ both => both)
    (forall₂_mono_of_mem each ?_))
  intro node member other nodes
  exact types _ (.part (members node member)) _ ⟨rfl, nodes⟩

theorem mergeType_of_matches
    {branches others : List Node}
    (given : schema.allOf = some branches)
    (each : List.Forall₂ (Node.Matches detail) branches others) :
    clauseType another stack twin (.allOf others) =
      clauseType context stack schema (.allOf branches) := by
  have merged := mergedBodies_of_matches stack matching
    (each.imp fun node other nodes => bodiesOf_of_matches same
      (⟨rfl, nodes⟩ : Site.Matches detail ⟨stack, node⟩ ⟨stack, other⟩))
  have separate := nodeTypes_of_matches types
    (fun node member => Schema.mem_parts_of_allOf given member) each
  have own := ownType_of_matches same matching types
  unfold clauseType
  dsimp only
  cases taken : mergedBodies stack schema branches fun node _ => bodiesOf context ⟨stack, node⟩ with
  | error error => rw [merged.eq_error taken]
  | ok found =>
      obtain ⟨foundToo, takenToo, both⟩ := merged.exists_ok taken
      rw [takenToo]
      cases both with
      | none =>
          dsimp only
          rw [separate, own, matching.hasMembers]
      | some bodies =>
          dsimp only
          rw [isEmpty_of_forall₂ each, matching.hasObjectKeywords,
            bodyType_of_matches same (Body.matches_merge bodies) fun inner mentioned =>
              types inner (.merged given taken mentioned)]

/-- The clauses of schemas that match have the same types. -/
theorem clauseTypes_of_matches :
    twin.clauses.map (clauseType another stack twin) =
      schema.clauses.map (clauseType context stack schema) := by
  have pieces {given stated : Option (List Node)} (clause : List Node → Clause)
      (both : Option.Rel (List.Forall₂ (Node.Matches detail)) given stated)
      (agree : ∀ nodes others, given = some nodes →
        List.Forall₂ (Node.Matches detail) nodes others →
        clauseType another stack twin (clause others) =
          clauseType context stack schema (clause nodes)) :
      (stated.map clause).toList.map (clauseType another stack twin) =
        (given.map clause).toList.map (clauseType context stack schema) := by
    cases both with
    | none => rfl
    | some each => exact congrArg (fun type => [type]) (agree _ _ rfl each)
  have allOf := pieces .allOf matching.allOf fun _ _ given each =>
    mergeType_of_matches same matching types given each
  have oneOf := pieces .oneOf matching.oneOf fun _ _ given each => by
    unfold clauseType
    dsimp only
    rw [nodeTypes_of_matches types (fun _ member => Schema.mem_parts_of_oneOf given member) each]
  have anyOf := pieces .anyOf matching.anyOf fun _ _ given each => by
    unfold clauseType
    dsimp only
    rw [nodeTypes_of_matches types (fun _ member => Schema.mem_parts_of_anyOf given member) each]
  have own : clauseType another stack twin .own = clauseType context stack schema .own :=
    ownType_of_matches same matching types
  have negation : clauseType another stack twin .negation =
      clauseType context stack schema .negation := by
    unfold clauseType
    rw [same.location]
  simp only [Schema.clauses, List.map_append, allOf, oneOf, anyOf, apply_ite (List.map _),
    List.map_cons, List.map_nil, own, negation, isSome_of_rel matching.negated,
    matching.hasMembers, ← Option.not_isSome, isSome_of_rel matching.allOf]

theorem formType_of_matches (form : Form) :
    formType another stack twin form = formType context stack schema form := by
  cases form with
  | keyword word => rfl
  | object => exact ownType_of_matches same matching types
  | array =>
      have item : itemType another stack twin = itemType context stack schema := by
        unfold itemType
        cases given : schema.items with
        | none => rw [eq_none_of_rel matching.items given]
        | some node =>
            obtain ⟨other, givenToo, nodes⟩ := exists_some_of_rel matching.items given
            rw [givenToo]
            exact types _ (.part (Schema.mem_parts_of_items given)) _ ⟨rfl, nodes⟩
      unfold formType tupleType
      dsimp only
      rw [item, matching.fixedLength?, matching.overlong?, same.options.same]

theorem coreType_of_matches : coreType another stack twin = coreType context stack schema := by
  unfold coreType
  rw [matching.isComposed, clauseTypes_of_matches same matching types, matching.const,
    matching.enum, matching.forms, funext (formType_of_matches same matching types)]

end Schema

/-- Sites that match have the same type. -/
theorem typeOf_of_matches {site twin : Site} (matching : site.Matches detail twin) :
    typeOf another twin = typeOf context site := by
  induction site using Site.callInduction context generalizing twin with
  | step site hypothesis =>
      obtain ⟨_, node⟩ := site
      obtain ⟨stack, nodeToo⟩ := twin
      obtain ⟨rfl, nodes⟩ := matching
      dsimp only at nodes hypothesis ⊢
      cases nodes with
      | @reference reference other target description =>
          have referrals := refer_of_matches same stack reference.target
          rw [typeOf_reference, typeOf_reference, target]
          cases referred : context.refer stack reference.target with
          | error error => rw [referrals.eq_error referred]
          | ok referral =>
              obtain ⟨twin, referredToo, both⟩ := referrals.exists_ok referred
              rw [referredToo]
              cases both with
              | named | unknown => rfl
              | inlined sites => exact hypothesis _ (.inlined referred) sites
      | inline matching =>
          rw [typeOf_schema, typeOf_schema, isNullable_of_matches same matching,
            coreType_of_matches same matching hypothesis]

end Types

end Typing
end ApiTypings
