import ApiTypings.Proofs.Component.Outline
import ApiTypings.Proofs.Typing.Cases
import ApiTypings.Proofs.Typing.Invariants
import ApiTypings.Proofs.Typing.Results

/-!
# On which components a type depends

A reference to a component schema is replaced by the name of its declaration, so that
its component need not be known. It has to be known for references among the branches
of `allOf`, which are merged, and for references that have no declaration, whose
schemas are inlined. Catalogs that list the same names and agree on these components
give the same type.
-/

namespace ApiTypings
namespace Document

/-- A node stands in another one, or is that one. -/
inductive Inside (outer : Node) : Node → Prop
  | self : Inside outer outer
  | part
      {schema : Schema}
      {part : Node}
      (whole : Inside outer (.inline schema))
      (member : part ∈ schema.parts) :
      Inside outer part

theorem Inside.eq_of_reference
    {reference : Reference}
    {node : Node}
    (inside : Inside (.reference reference) node) :
    node = .reference reference := by
  induction inside with
  | self => rfl
  | part _ _ hypothesis => contradiction

end Document

namespace Component

open Document

/-- The nodes of a component from which references are collected. -/
def nodesIn : OrReference Target → List Node
  | .inline (.schema schema) => [.inline schema]
  | .inline (.parameter parameter) => parameter.schema.toList
  | _ => []

end Component

namespace Typing

open Component Document TypeScript

/-- The components to which the references in a node resolve, where that matters. A
component is looked up by the canonical spelling of its reference; only the aliases
behind a reference without a declaration are followed by their own spellings. -/
inductive Needs (catalog : Catalog) (reader : Node) : Pointer → Prop
  /-- A reference among the branches of `allOf`. -/
  | branch
      {schema : Schema}
      {branches : List Node}
      {reference : Reference}
      {pointer : Pointer}
      (inside : Inside reader (.inline schema))
      (given : schema.allOf = some branches)
      (member : .reference reference ∈ branches)
      (resolves : Resolves catalog Pointer.decoded reference.target pointer) :
      Needs catalog reader pointer
  /-- A reference without a declaration. -/
  | foreign
      {reference : Reference}
      {pointer : Pointer}
      (inside : Inside reader (.reference reference))
      (parsed : Pointer.parse reference.target = .ok pointer)
      (undeclared : catalog.declaredName? pointer = none) :
      Needs catalog reader pointer.decoded
  /-- A reference without a declaration whose component is an alias. -/
  | foreignAlias
      {reference next : Reference}
      {pointer last : Pointer}
      (inside : Inside reader (.reference reference))
      (parsed : Pointer.parse reference.target = .ok pointer)
      (undeclared : catalog.declaredName? pointer = none)
      (found : catalog.get? pointer.decoded = some (.reference next))
      (resolves : Resolves catalog id next.target last) :
      Needs catalog reader last

/-- The nodes from which references are collected: the one to start with, and those of
the components that are needed. -/
inductive Reads (catalog : Catalog) (start : Node) : Node → Prop
  | start : Reads catalog start start
  | next
      {reader node : Node}
      {pointer : Pointer}
      {component : OrReference Target}
      (reads : Reads catalog start reader)
      (needs : Needs catalog reader pointer)
      (found : catalog.get? pointer = some component)
      (member : node ∈ nodesIn component) :
      Reads catalog start node

/-- The components on which the type of a node depends: the least set that contains those
that the node needs and those that its members need. -/
def Depends (catalog : Catalog) (start : Node) (pointer : Pointer) : Prop :=
  ∃ reader, Reads catalog start reader ∧ Needs catalog reader pointer

/-- The set of components on which a type depends is the least one: it lies in every set
that contains what some nodes need, if the start is among these nodes and so are those
of the components in the set. -/
theorem Depends.of_closed
    {catalog : Catalog}
    {start : Node}
    (Readers : Node → Prop)
    (Needed : Pointer → Prop)
    (begins : Readers start)
    (needed : ∀ reader pointer, Readers reader → Needs catalog reader pointer → Needed pointer)
    (readers : ∀ pointer component node, Needed pointer →
      catalog.get? pointer = some component → node ∈ nodesIn component → Readers node)
    {pointer : Pointer}
    (depends : Depends catalog start pointer) :
    Needed pointer := by
  obtain ⟨reader, reads, needs⟩ := depends
  refine needed reader pointer ?_ needs
  clear needs
  induction reads with
  | start => exact begins
  | next _ needs found member hypothesis =>
      exact readers _ _ _ (needed _ _ hypothesis needs) found member

/-- The type of a reference to a component schema depends on no component. -/
theorem not_depends_of_declared
    {catalog : Catalog}
    {reference : Reference}
    {pointer : Pointer}
    (parsed : Pointer.parse reference.target = .ok pointer)
    {name : String}
    (declared : catalog.declaredName? pointer = some name)
    (other : Pointer) :
    ¬ Depends catalog (.reference reference) other := by
  have undeclared {inner : Reference} {place : Pointer}
      (inside : Inside (.reference reference) (.reference inner))
      (parsedThere : Pointer.parse inner.target = .ok place) :
      catalog.declaredName? place ≠ none := by
    cases inside.eq_of_reference
    rw [Except.ok.inj (parsedThere.symm.trans parsed), declared]
    exact Option.some_ne_none name
  intro depends
  refine Depends.of_closed (fun node => node = .reference reference) (fun _ => False) rfl ?_
    (fun _ _ _ impossible => impossible.elim) depends
  rintro reader place rfl needs
  cases needs with
  | branch inside => cases inside.eq_of_reference
  | foreign inside parsedThere none => exact undeclared inside parsedThere none
  | foreignAlias inside parsedThere none => exact undeclared inside parsedThere none

/-- A node stands in one from which references are collected. -/
def Reached (catalog : Catalog) (start node : Node) : Prop :=
  ∃ reader, Reads catalog start reader ∧ Inside reader node

/-- All that is needed to take a node apart is collected. -/
def Opened (catalog : Catalog) (start : Node) : Node → Prop
  | .inline schema => Reached catalog start (.inline schema)
  | .reference reference =>
      ∀ pointer, Resolves catalog Pointer.decoded reference.target pointer →
        Depends catalog start pointer

variable {context : Context} {start : Node}

theorem Depends.reached
    {catalog : Catalog}
    {pointer : Pointer}
    {component : OrReference Target}
    {node : Node}
    (depends : Depends catalog start pointer)
    (found : catalog.get? pointer = some component)
    (member : node ∈ nodesIn component) :
    Reached catalog start node := by
  obtain ⟨reader, reads, needs⟩ := depends
  exact ⟨node, .next reads needs found member, .self⟩

/-- A reference without a declaration is inlined by a component on which the type
depends. -/
theorem reached_of_refer
    {stack : List Pointer}
    {reference : Reference}
    {site : Site}
    (reached : Reached context.catalog start (.reference reference))
    (referred : context.refer stack reference.target = .ok (.inlined site)) :
    Reached context.catalog start site.node := by
  obtain ⟨reader, reads, inside⟩ := reached
  obtain ⟨pointer, component, parameter, node, parsed, undeclared, found, led, given, _, rfl⟩ :=
    refer_inlined_cases referred
  have spelled := Catalog.parse_eq_ok_iff.mp parsed
  have member : node ∈ nodesIn (.inline (.parameter parameter)) := Option.mem_toList.mpr given
  cases component with
  | inline target =>
      cases led
      exact Depends.reached ⟨reader, reads, .foreign inside spelled undeclared⟩ found member
  | reference next =>
      obtain ⟨⟨last, target⟩, followed, same⟩ := exists_of_map_eq_ok led
      cases same
      have resolves := resolves_of_follow followed
      have depends : Depends context.catalog start last :=
        ⟨reader, reads, .foreignAlias inside spelled undeclared found resolves⟩
      exact depends.reached (Catalog.get?_of_follow followed) member

/-- Standing in what was collected is kept from a type to the types that it asks for. -/
theorem invariant_reached (context : Context) (start : Node) :
    Task.Invariant context (Reached context.catalog start) (Opened context.catalog start) where
  inlined reached referred := reached_of_refer reached referred
  part := by
    rintro schema part ⟨reader, reads, inside⟩ member
    exact ⟨reader, reads, .part inside member⟩
  branch := by
    rintro schema branches node ⟨reader, reads, inside⟩ given member
    cases node with
    | inline inner => exact ⟨reader, reads, .part inside (Schema.mem_parts_of_allOf given member)⟩
    | reference reference =>
        intro pointer resolves
        exact ⟨reader, reads, .branch inside given member resolves⟩
  followed := by
    intro reference next pointer opened parsed found place resolves
    have spelled := Catalog.parse_eq_ok_iff.mp parsed
    exact opened place (.through spelled (Catalog.get?_of_find found) resolves)
  opened := by
    intro reference pointer schema opened parsed found
    have spelled := Catalog.parse_eq_ok_iff.mp parsed
    have depends := opened _ (.direct spelled)
    exact depends.reached (Catalog.get?_of_find found) (List.mem_singleton_self _)
  own opened := opened

/-! ## Two catalogs -/

/-- The context with another catalog. -/
def Context.over (context : Context) (catalog : Catalog) : Context :=
  { context with catalog := catalog }

/-- Two catalogs agree on all components on which the type of a node depends. -/
def AgreeFor (one other : Catalog) (start : Node) : Prop :=
  ∀ pointer, Depends one start pointer → one.get? pointer = other.get? pointer

section Agreement

variable
    {other : Catalog}
    (outline : SameOutline context.catalog other)
    (agree : AgreeFor context.catalog other start)

include outline

theorem component_over
    {pointer : Pointer}
    (same : context.catalog.get? pointer.decoded = other.get? pointer.decoded) :
    (context.over other).component pointer = context.component pointer :=
  (outline.find_eq same pointer.text context.location).symm

/-- A reference with a declaration stands for it whatever its component is. -/
theorem refer_over_of_declared
    {reference : String}
    {pointer : Pointer}
    (parsed : Catalog.parse reference context.location = .ok pointer)
    {name : String}
    (declared : context.catalog.declaredName? pointer = some name)
    (stack : List Pointer) :
    (context.over other).refer stack reference = context.refer stack reference := by
  have parsedOther : Catalog.parse reference (context.over other).location = .ok pointer := parsed
  have declaredOther : (context.over other).catalog.declaredName? pointer = some name :=
    (outline.declaredName? pointer).symm.trans declared
  cases found : context.catalog.get? pointer.decoded with
  | none =>
      have missing := outline.get?_eq_none_iff.mp found
      have same := component_over outline (found.trans missing.symm)
      have failed : ∃ error, context.component pointer = .error error := by
        simp [Context.component, Catalog.find, found]
      obtain ⟨error, failed⟩ := failed
      rw [failed] at same
      simp only [Context.refer, parsed, parsedOther, same, failed]
  | some component =>
      have present : other.get? pointer.decoded ≠ none := by
        intro missing
        rw [outline.get?_eq_none_iff.mpr missing] at found
        contradiction
      obtain ⟨componentOther, foundOther⟩ := Option.ne_none_iff_exists'.mp present
      rw [refer_of_declared parsed found declared,
        refer_of_declared parsedOther foundOther declaredOther]

include agree

theorem target_over
    {component : OrReference Target}
    (followed : ∀ next, component = .reference next →
      ∀ pointer, Resolves context.catalog id next.target pointer → Depends context.catalog start pointer) :
    (context.over other).target component = context.target component := by
  cases component with
  | inline target => rfl
  | reference next =>
      have same := outline.follow_eq (fun pointer resolves =>
        agree pointer (followed next rfl pointer resolves)) context.location []
      unfold Context.target
      exact congrArg (Except.map Prod.snd) same.symm

/-- A reference that was collected stands for the same in both catalogs. -/
theorem refer_over
    {reference : Reference}
    (reached : Reached context.catalog start (.reference reference))
    (stack : List Pointer) :
    (context.over other).refer stack reference.target = context.refer stack reference.target := by
  obtain ⟨reader, reads, inside⟩ := reached
  cases parsed : Catalog.parse reference.target context.location with
  | error error =>
      have parsedOther : Catalog.parse reference.target (context.over other).location =
          .error error := parsed
      simp only [Context.refer, parsed, parsedOther]
  | ok pointer =>
      cases declared : context.catalog.declaredName? pointer with
      | some name => exact refer_over_of_declared outline parsed declared stack
      | none =>
          have spelled := Catalog.parse_eq_ok_iff.mp parsed
          have parsedOther : Catalog.parse reference.target (context.over other).location =
              .ok pointer := parsed
          have declaredOther : (context.over other).catalog.declaredName? pointer = none :=
            (outline.declaredName? pointer).symm.trans declared
          have same := component_over outline
            (agree _ ⟨reader, reads, .foreign inside spelled declared⟩)
          unfold Context.refer
          rw [parsed, parsedOther]
          simp only [declared, declaredOther, same]
          cases found : context.component pointer with
          | error error => rfl
          | ok component =>
              have targets : (context.over other).target component = context.target component := by
                apply target_over outline agree
                rintro next rfl last resolves
                exact ⟨reader, reads,
                  .foreignAlias inside spelled declared (Catalog.get?_of_find found) resolves⟩
              simp only [Context.inlining, targets]
              rfl

theorem bodiesOf_over {site : Site} (opened : Opened context.catalog start site.node) :
    bodiesOf (context.over other) site = bodiesOf context site := by
  have location : (context.over other).location = context.location := rfl
  refine bodiesOf_congr (invariant_reached context start) location (fun _ => rfl) ?_ opened
  intro reference pointer openedThere parsed
  apply component_over outline
  exact agree _ (openedThere _ (.direct (Catalog.parse_eq_ok_iff.mp parsed)))

end Agreement

/-! ## Members, forms and clauses -/

variable {other : Catalog}

theorem bodyType_over
    {body : Body}
    (same : ∀ site, body.Mentions site → typeOf (context.over other) site = typeOf context site) :
    bodyType (context.over other) body = bodyType context body := by
  have members : body.properties.map (propertyMember (context.over other) body) =
      body.properties.map (propertyMember context body) := by
    apply List.map_congr_left
    intro entry listed
    unfold propertyMember
    rw [same _ (.property entry.1 listed)]
    rfl
  have further : indexType (context.over other) body = indexType context body := by
    unfold indexType
    split
    · rfl
    · rfl
    · rename_i site given
      rw [same site (.additional given)]
  unfold bodyType
  rw [members, further]
  rfl

section Schema

variable
    {stack : List Pointer}
    {schema : Schema}
    (same : ∀ inner, Task.Calls context (.type ⟨stack, .inline schema⟩) (.type inner) →
      typeOf (context.over other) inner = typeOf context inner)

include same

theorem ownType_over :
    bodyType (context.over other) (Body.ofSchema stack schema) =
      bodyType context (Body.ofSchema stack schema) := by
  apply bodyType_over
  intro site mentioned
  obtain ⟨part, member, rfl⟩ := Task.exists_part_of_mentions mentioned
  exact same _ (.part member)

theorem formType_over (form : Form) :
    formType (context.over other) stack schema form = formType context stack schema form := by
  cases form with
  | array =>
      have items : itemType (context.over other) stack schema = itemType context stack schema := by
        unfold itemType
        split
        · rfl
        · rename_i given
          exact same _ (.part (Schema.mem_parts_of_items given))
      unfold formType
      rw [items]
      rfl
  | object => exact ownType_over same
  | keyword word => rfl

theorem nodeTypes_over
    {nodes : List Node}
    (members : ∀ node ∈ nodes, node ∈ schema.parts) :
    nodeTypes (context.over other) stack nodes = nodeTypes context stack nodes := by
  unfold nodeTypes
  congr 1
  apply List.map_congr_left
  intro node member
  exact same _ (.part (members node member))

theorem clauseType_over
    (outline : SameOutline context.catalog other)
    (agree : AgreeFor context.catalog other start)
    (reached : Reached context.catalog start (.inline schema))
    {clause : Clause}
    (listed : clause ∈ schema.clauses) :
    clauseType (context.over other) stack schema clause =
      clauseType context stack schema clause := by
  have united {nodes : List Node} (members : ∀ node ∈ nodes, node ∈ schema.parts) :
      clauseType (context.over other) stack schema (.oneOf nodes) =
        clauseType context stack schema (.oneOf nodes) := by
    dsimp only [clauseType]
    rw [nodeTypes_over same members]
  rcases Schema.clause_cases listed with ⟨branches, given, rfl⟩ | ⟨branches, given, rfl⟩ |
    ⟨branches, given, rfl⟩ | rfl | rfl
  · have bodies : (fun (node : Node) (_ : node ∈ branches) =>
          bodiesOf (context.over other) ⟨stack, node⟩) =
        fun (node : Node) (_ : node ∈ branches) => bodiesOf context ⟨stack, node⟩ := by
      funext node member
      apply bodiesOf_over outline agree
      exact (invariant_reached context start).branch reached given member
    have types := nodeTypes_over same fun node member => Schema.mem_parts_of_allOf given member
    dsimp only [clauseType]
    simp only [bodies, types, ownType_over same]
    cases taken : mergedBodies stack schema branches fun node _ => bodiesOf context ⟨stack, node⟩ with
    | error error => rfl
    | ok found =>
        cases found with
        | none => rfl
        | some merged =>
            dsimp only
            rw [bodyType_over fun site mentioned => same _ (.merged given taken mentioned)]
  · exact united fun node member => Schema.mem_parts_of_oneOf given member
  · exact united fun node member => Schema.mem_parts_of_anyOf given member
  · rfl
  · exact ownType_over same

theorem coreType_over
    (outline : SameOutline context.catalog other)
    (agree : AgreeFor context.catalog other start)
    (reached : Reached context.catalog start (.inline schema)) :
    coreType (context.over other) stack schema = coreType context stack schema := by
  have clauses : schema.clauses.map (clauseType (context.over other) stack schema) =
      schema.clauses.map (clauseType context stack schema) := by
    apply List.map_congr_left
    intro clause listed
    exact clauseType_over same outline agree reached listed
  have forms : formType (context.over other) stack schema = formType context stack schema :=
    funext (formType_over same)
  unfold coreType
  rw [clauses, forms]

end Schema

/-- Catalogs with the same outline give the same type to a node, or fail alike, if they
agree on the components on which the type depends. -/
theorem typeOf_over
    (outline : SameOutline context.catalog other)
    (agree : AgreeFor context.catalog other start)
    {site : Site}
    (reached : Reached context.catalog start site.node) :
    typeOf (context.over other) site = typeOf context site := by
  induction site using Site.callInduction context with
  | step site hypothesis =>
      have same (inner : Site) (calls : Task.Calls context (.type site) (.type inner)) :
          typeOf (context.over other) inner = typeOf context inner :=
        hypothesis inner calls ((invariant_reached context start).typed_of_calls calls reached)
      obtain ⟨stack, node⟩ := site
      cases node with
      | reference reference =>
          rw [typeOf_reference, typeOf_reference, refer_over outline agree reached]
          split
          · rfl
          · rfl
          · rfl
          · rename_i referred
            exact same _ (.inlined referred)
      | inline schema =>
          rw [typeOf_schema, typeOf_schema, coreType_over same outline agree reached]
          rfl

end Typing
end ApiTypings
