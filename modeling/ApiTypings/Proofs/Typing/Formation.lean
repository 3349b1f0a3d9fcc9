import ApiTypings.Proofs.Typing.Faithful

/-!
# How types are formed

The type of every site is put together in a few ways from the types of other sites. What all
these ways preserve holds of all types.
-/

namespace ApiTypings
namespace Typing

open Component Document TypeScript

/-- A comment on a node, or none. -/
def Describes (options : Options) (comment : List String) : Prop :=
  comment = [] ∨ ∃ node, describe options node = .ok comment

/-- A type is put together as the types of schemas are. An object has members, and they are
commented as nodes are described. -/
inductive Formed (context : Context) : TypeExpr → Prop
  | keyword (word : Keyword) : Formed context (.keyword word)
  | literal (value : Literal) : Formed context (.literal value)
  | reference {name : String} (declared : context.catalog.Declares name) :
      Formed context (.reference name)
  | negation : Formed context .negation
  | record (word : Keyword) : Formed context (.record word)
  | array {item : TypeExpr} (formed : Formed context item) : Formed context (.array item)
  | tuple {item : TypeExpr} (formed : Formed context item) (length : Nat) :
      Formed context (.tuple item length)
  | object
      {members : List (Member TypeExpr)}
      (filled : members ≠ [])
      (keys : ∀ member ∈ members, member.key.OfSchema)
      (comments : ∀ member ∈ members, Describes context.options member.comment)
      (types : ∀ member ∈ members, Formed context member.type) :
      Formed context (.object members)
  | union
      {first second : TypeExpr}
      {rest : List TypeExpr}
      (each : ∀ type ∈ first :: second :: rest, Formed context type) :
      Formed context (.union first second rest)
  | intersection
      {first second : TypeExpr}
      {rest : List TypeExpr}
      (each : ∀ type ∈ first :: second :: rest, Formed context type) :
      Formed context (.intersection first second rest)

variable {context : Context}

/-! ## Unions and intersections -/

theorem Formed.alternatives {type : TypeExpr} (formed : Formed context type) :
    ∀ member ∈ type.alternatives, Formed context member := by
  intro member listed
  have whole := formed
  cases formed with
  | union each => exact each member listed
  | _ =>
      rw [List.mem_singleton.mp listed]
      exact whole

theorem Formed.parts {type : TypeExpr} (formed : Formed context type) :
    ∀ part ∈ type.parts, Formed context part := by
  intro part listed
  have whole := formed
  cases formed with
  | intersection each => exact each part listed
  | _ =>
      rw [List.mem_singleton.mp listed]
      exact whole

theorem formed_unionOf
    {types : List TypeExpr}
    (each : ∀ type ∈ types, Formed context type) :
    Formed context (.unionOf types) := by
  have members : ∀ member ∈ types.flatMap TypeExpr.alternatives, Formed context member := by
    intro member listed
    obtain ⟨type, inTypes, inType⟩ := List.mem_flatMap.mp listed
    exact (each type inTypes).alternatives member inType
  unfold TypeExpr.unionOf
  split
  · exact .keyword .unknown
  · rename_i only same
    exact members only (same ▸ List.mem_cons_self)
  · rename_i same
    rw [same] at members
    exact .union members

theorem formed_intersectionOf
    {types : List TypeExpr}
    (each : ∀ type ∈ types, Formed context type) :
    Formed context (.intersectionOf types) := by
  have members : ∀ part ∈ types.flatMap TypeExpr.parts, Formed context part := by
    intro part listed
    obtain ⟨type, inTypes, inType⟩ := List.mem_flatMap.mp listed
    exact (each type inTypes).parts part inType
  unfold TypeExpr.intersectionOf
  split
  · exact .keyword .unknown
  · rename_i only same
    exact members only (same ▸ List.mem_cons_self)
  · rename_i same
    rw [same] at members
    exact .intersection members

theorem Formed.orNull {type : TypeExpr} (formed : Formed context type) :
    Formed context type.orNull := by
  unfold TypeExpr.orNull
  split
  · exact formed
  · refine formed_unionOf ?_
    intro member listed
    rcases List.mem_pair.mp listed with rfl | rfl
    · exact formed
    · exact .keyword .null

/-! ## Bodies -/

/-- A member of an object that is formed. -/
structure FormedMember (context : Context) (member : Member TypeExpr) : Prop where
  key : member.key.OfSchema
  comment : Describes context.options member.comment
  type : Formed context member.type

theorem formed_objectOr
    (empty : Keyword)
    {members : List (Member TypeExpr)}
    (each : ∀ member ∈ members, FormedMember context member) :
    Formed context (.objectOr empty members) := by
  unfold TypeExpr.objectOr
  split
  · exact .record empty
  · rename_i filled
    rw [List.isEmpty_iff] at filled
    exact .object filled (fun member listed => (each member listed).key)
      (fun member listed => (each member listed).comment)
      fun member listed => (each member listed).type

theorem yields_propertyMember
    {body : Body}
    {entry : String × Site}
    (typed : (typeOf context entry.2).Yields (Formed context)) :
    (propertyMember context body entry).Yields (FormedMember context) := by
  refine (Traced.Yields.ofWritten _).bind fun comment described => ?_
  refine typed.bind fun type formed => .pure ?_
  exact ⟨trivial, .inr ⟨entry.2.node, described⟩, formed⟩

theorem yields_indexType
    {body : Body}
    (each : ∀ site, body.Mentions site → (typeOf context site).Yields (Formed context)) :
    (indexType context body).Yields fun further => ∀ type ∈ further, Formed context type := by
  have unknown (flag : Bool) :
      ∀ type ∈ (if flag then some TypeExpr.unknown else none), Formed context type := by
    intro type given
    cases flag with
    | false => contradiction
    | true =>
        cases given
        exact .keyword .unknown
  unfold indexType
  split
  · exact .pure (unknown _)
  · exact .pure (unknown _)
  · rename_i site given
    refine (each site (.additional given)).bind fun type formed => .pure ?_
    rintro _ ⟨⟩
    exact formed

theorem yields_bodyType
    {body : Body}
    (each : ∀ site, body.Mentions site → (typeOf context site).Yields (Formed context)) :
    (bodyType context body).Yields (Formed context) := by
  have properties : (Traced.sequence (body.properties.map (propertyMember context body))).Yields
      fun members => ∀ member ∈ members, FormedMember context member :=
    .each fun entry listed => yields_propertyMember (each entry.2 (.property entry.1 listed))
  refine properties.bind fun members formed => ?_
  refine (yields_indexType each).bind fun further formedFurther => .pure ?_
  refine formed_objectOr _ ?_
  intro member listed
  rcases List.mem_append.mp listed with property | signature
  · exact formed member property
  · obtain ⟨type, given, rfl⟩ := List.mem_map.mp signature
    exact ⟨trivial, .inl rfl, formedFurther type (Option.mem_toList.mp given)⟩

/-! ## Values -/

theorem formed_ofScalar
    (context : Context)
    {value : Value}
    {type? : Option TypeExpr}
    (written : TypeExpr.ofScalar value = .ok type?) :
    ∀ type ∈ type?, Formed context type := by
  rintro type rfl
  rcases TypeExpr.null_or_literal_of_ofScalar written with rfl | ⟨content, rfl⟩
  · exact .keyword .null
  · exact .literal content

theorem formed_constantType
    {value : Value}
    {type : TypeExpr}
    (written : constantType value = .ok type) :
    Formed context type := by
  obtain ⟨type?, scalar, rfl⟩ := exists_of_map_eq_ok written
  cases type? with
  | none => exact .keyword .unknown
  | some type => exact formed_ofScalar context scalar type rfl

theorem formed_enumType
    {values : List Value}
    {type : TypeExpr}
    (written : enumType values = .ok type) :
    Formed context type := by
  obtain ⟨types, scalars, rfl⟩ := exists_of_map_eq_ok written
  have each := forall₂_of_mapM_eq_ok scalars
  cases present : types.mapM id with
  | none => exact .keyword .unknown
  | some found =>
      refine formed_unionOf ?_
      intro type listed
      rw [eq_map_some_of_mapM present] at each
      obtain ⟨value, _, scalar⟩ := exists_left_of_forall₂ each (List.mem_map_of_mem listed)
      exact formed_ofScalar context scalar type rfl

/-! ## Schemas -/

variable {stack : List Pointer} {schema : Schema}

section Parts

variable
    (parts : ∀ part ∈ schema.parts, (typeOf context ⟨stack, part⟩).Yields (Formed context))

include parts

theorem yields_ownType :
    (bodyType context (Body.ofSchema stack schema)).Yields (Formed context) := by
  refine yields_bodyType ?_
  intro site mentioned
  obtain ⟨part, member, rfl⟩ := Task.exists_part_of_mentions mentioned
  exact parts part member

theorem yields_itemType : (itemType context stack schema).Yields (Formed context) := by
  unfold itemType
  split
  · exact .pure (.keyword .unknown)
  · rename_i given
    exact parts _ (Schema.mem_parts_of_items given)

theorem yields_formType (form : Form) :
    (formType context stack schema form).Yields (Formed context) := by
  cases form with
  | array =>
      refine (yields_itemType parts).bind fun item formed => ?_
      split
      · intro type finished
        rw [eq_tuple_of_tupleType finished]
        exact .tuple formed _
      · exact .pure (.array formed)
  | object => exact yields_ownType parts
  | keyword word => exact .pure (.keyword word)

theorem yields_nodeTypes {nodes : List Node} (inside : ∀ node ∈ nodes, node ∈ schema.parts) :
    (nodeTypes context stack nodes).Yields fun types => ∀ type ∈ types, Formed context type :=
  .each fun node member => parts node (inside node member)

end Parts

section Calls

variable
    (each : ∀ inner, Task.Calls context (.type ⟨stack, .inline schema⟩) (.type inner) →
      (typeOf context inner).Yields (Formed context))

include each

theorem yields_clauseType {clause : Clause} (listed : clause ∈ schema.clauses) :
    (clauseType context stack schema clause).Yields (Formed context) := by
  have parts (part : Node) (member : part ∈ schema.parts) :
      (typeOf context ⟨stack, part⟩).Yields (Formed context) :=
    each _ (.part member)
  rcases Schema.clause_cases listed with ⟨branches, given, rfl⟩ | ⟨branches, given, rfl⟩ |
    ⟨branches, given, rfl⟩ | rfl | rfl
  · have several := yields_nodeTypes parts fun node => Schema.mem_parts_of_allOf given
    dsimp only [clauseType]
    split
    · intro _ finished
      cases finished
    · rename_i bodies taken
      split
      · exact .pure (.keyword .unknown)
      · exact yields_bodyType fun site mentioned => each site (.merged given taken mentioned)
    · refine several.bind fun types formed => ?_
      split
      · refine (yields_ownType parts).bind fun own formedOwn => .pure ?_
        refine formed_intersectionOf ?_
        intro type inTypes
        rcases List.mem_append.mp inTypes with branch | isOwn
        · exact formed type branch
        · rw [List.mem_singleton.mp isOwn]
          exact formedOwn
      · exact .pure (formed_intersectionOf formed)
  · have several := yields_nodeTypes parts fun node => Schema.mem_parts_of_oneOf given
    exact several.bind fun types formed => .pure (formed_unionOf formed)
  · have several := yields_nodeTypes parts fun node => Schema.mem_parts_of_anyOf given
    exact several.bind fun types formed => .pure (formed_unionOf formed)
  · intro type finished
    cases finished
    exact .negation
  · exact yields_ownType parts

theorem yields_coreType : (coreType context stack schema).Yields (Formed context) := by
  unfold coreType
  split
  · have clauses := Traced.Yields.each fun clause listed => yields_clauseType each listed
    exact clauses.bind fun types formed => .pure (formed_intersectionOf formed)
  · split
    · intro type finished
      exact formed_constantType (Traced.ofWritten_eq_ok finished)
    · intro type finished
      exact formed_enumType (Traced.ofWritten_eq_ok finished)
    · have forms := Traced.Yields.each fun form (_ : form ∈ schema.forms) =>
        yields_formType (fun part member => each _ (.part member)) form
      exact forms.bind fun types formed => .pure (formed_unionOf formed)

end Calls

/-- Every type that is found is formed. -/
theorem formed_typeOf (context : Context) (site : Site) :
    (typeOf context site).Yields (Formed context) := by
  induction site using Site.callInduction context with
  | step site each =>
      obtain ⟨stack, node⟩ := site
      cases node with
      | reference reference =>
          intro type finished
          rw [typeOf_reference] at finished
          split at finished
          · cases finished
          · rename_i referred
            cases Traced.eq_of_result_pure finished
            exact .reference (declares_of_refer referred)
          · cases Traced.eq_of_result_pure finished
            exact .keyword .unknown
          · rename_i referred
            exact each _ (.inlined referred) type finished
      | inline schema =>
          rw [typeOf_schema]
          refine (yields_coreType each).bind fun core formed => .pure ?_
          split
          · exact formed.orNull
          · exact formed

end Typing
end ApiTypings
