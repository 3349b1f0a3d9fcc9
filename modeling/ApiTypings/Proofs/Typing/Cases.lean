import ApiTypings.Proofs.Typing.Unfolding

/-!
# The type of a site by cases

What the type of a schema is made of, as functions of the schema that ask for the
types of other sites: the clauses of a composition, the forms of a schema without
one, and the members of an object.
-/

namespace ApiTypings
namespace Document

open Typing

/-- The parts of which the type of a composed schema is an intersection. -/
inductive Clause
  | allOf (branches : List Node)
  | oneOf (branches : List Node)
  | anyOf (branches : List Node)
  | negation
  /-- The members of which the schema speaks itself. -/
  | own

/-- The clauses of a composed schema. The members of which it speaks itself belong
to `allOf` if there is one. -/
def Schema.clauses (schema : Schema) : List Clause :=
  (schema.allOf.map Clause.allOf).toList ++ (schema.oneOf.map Clause.oneOf).toList ++
    (schema.anyOf.map Clause.anyOf).toList ++
    (if schema.negated.isSome then [.negation] else []) ++
    (if schema.allOf.isNone && schema.hasMembers then [.own] else [])

theorem Schema.clause_cases
    {schema : Schema}
    {clause : Clause}
    (listed : clause ∈ schema.clauses) :
    (∃ branches, schema.allOf = some branches ∧ clause = .allOf branches) ∨
      (∃ branches, schema.oneOf = some branches ∧ clause = .oneOf branches) ∨
      (∃ branches, schema.anyOf = some branches ∧ clause = .anyOf branches) ∨
      clause = .negation ∨ clause = .own := by
  simp only [clauses, List.mem_append, Option.mem_toList, Option.map_eq_some_iff] at listed
  rcases listed with (((allOf | oneOf) | anyOf) | negation) | own
  · obtain ⟨branches, given, rfl⟩ := allOf
    exact .inl ⟨branches, given, rfl⟩
  · obtain ⟨branches, given, rfl⟩ := oneOf
    exact .inr (.inl ⟨branches, given, rfl⟩)
  · obtain ⟨branches, given, rfl⟩ := anyOf
    exact .inr (.inr (.inl ⟨branches, given, rfl⟩))
  · split at negation
    · exact .inr (.inr (.inr (.inl (List.mem_singleton.mp negation))))
    · contradiction
  · split at own
    · exact .inr (.inr (.inr (.inr (List.mem_singleton.mp own))))
    · contradiction

end Document

namespace Typing

open Component Document TypeScript

/-- The member of a property. -/
def propertyMember (context : Context) (body : Body) (entry : String × Site) :
    Traced (Member TypeExpr) := do
  let comment ← Traced.ofWritten (describe context.options entry.2.node)
  let type ← typeOf context entry.2
  return {
    key := .quoted entry.1
    type := type
    optional := !body.required.contains entry.1
    readonly := context.options.immutable
    comment := comment }

/-- The type of further keys. -/
def indexType (context : Context) (body : Body) : Traced (Option TypeExpr) :=
  match body.additional with
  | none => .done (if context.options.additionalProperties then some .unknown else none)
  | some (.allowed flag) => .done (if flag then some .unknown else none)
  | some (.typed site) => (typeOf context site).andThen fun type => .done (some type)

/-- The type of a body. -/
def bodyType (context : Context) (body : Body) : Traced TypeExpr := do
  let members ← Traced.sequence (body.properties.map (propertyMember context body))
  let further ← indexType context body
  let signature := further.toList.map fun type =>
    { key := .anyKey, type := type, readonly := context.options.immutable : Member TypeExpr }
  return .objectOr body.emptyValue (members ++ signature)

theorem bodyType_eq (context : Context) (body : Body) :
    (body.type context.options fun site _ => typeOf context site) = bodyType context body := by
  have further :
      (body.index context.options fun site _ => typeOf context site) = indexType context body := by
    unfold Body.index indexType
    split <;> rename_i given <;> simp only [given]
  unfold Body.type bodyType
  rw [further]
  exact congrArg (fun members => Traced.andThen (Traced.sequence members) _)
    (List.attach_map_val (f := propertyMember context body))

/-- The types of several nodes. -/
def nodeTypes (context : Context) (stack : List Pointer) (nodes : List Node) :
    Traced (List TypeExpr) :=
  Traced.sequence (nodes.map fun node => typeOf context ⟨stack, node⟩)

/-- The type of a clause. -/
def clauseType (context : Context) (stack : List Pointer) (schema : Schema) :
    Clause → Traced TypeExpr
  | .allOf branches =>
      match mergedBodies stack schema branches fun node _ => bodiesOf context ⟨stack, node⟩ with
      | .error error => .fail error
      | .ok (some bodies) =>
          if branches.isEmpty && !schema.hasObjectKeywords then .done .unknown
          else bodyType context (Body.merge bodies)
      | .ok none => do
          let types ← nodeTypes context stack branches
          if schema.hasMembers then
            let own ← bodyType context (Body.ofSchema stack schema)
            return .intersectionOf (types ++ [own])
          else return .intersectionOf types
  | .oneOf branches | .anyOf branches =>
      (nodeTypes context stack branches).andThen fun types => .done (.unionOf types)
  | .negation => ⟨[.approximatedNegation context.location], .ok .negation⟩
  | .own => bodyType context (Body.ofSchema stack schema)

/-- The parts of a composed schema are the types of its clauses. -/
theorem composedParts_eq (context : Context) (stack : List Pointer) (schema : Schema) :
    (Visit.of context stack schema).composedParts =
      schema.clauses.map (clauseType context stack schema) := by
  have merged (branches : List Node) (given : schema.allOf = some branches) :
      (Visit.of context stack schema).mergeType branches given =
        clauseType context stack schema (.allOf branches) := by
    unfold Visit.of
    rw [Visit.mergeType_answers]
    simp only [bodyType_eq]
    rfl
  have united (branches : List Node) (members : ∀ part ∈ branches, part ∈ schema.parts) :
      (Visit.of context stack schema).unionType branches members =
        clauseType context stack schema (.oneOf branches) := by
    unfold Visit.of Visit.unionType
    rw [Visit.partTypes_answers]
    rfl
  have own : (Visit.of context stack schema).ownType = clauseType context stack schema .own :=
    bodyType_eq context _
  unfold Visit.composedParts Schema.clauses
  rw [List.map_append, List.map_append, List.map_append, List.map_append]
  refine congrArg₂ (· ++ ·) (congrArg₂ (· ++ ·) (congrArg₂ (· ++ ·)
    (congrArg₂ (· ++ ·) ?allOf ?oneOf) ?anyOf) ?negation) ?own
  case allOf =>
    split <;> rename_i given <;> change schema.allOf = _ at given <;> rw [given]
    · exact congrArg (fun type => [type]) (merged _ given)
    · rfl
  case oneOf =>
    split <;> rename_i given <;> change schema.oneOf = _ at given <;> rw [given]
    · exact congrArg (fun type => [type]) (united _ _)
    · rfl
  case anyOf =>
    split <;> rename_i given <;> change schema.anyOf = _ at given <;> rw [given]
    · exact congrArg (fun type => [type]) (united _ _)
    · rfl
  case negation =>
    rw [apply_ite (List.map _)]
    rfl
  case own =>
    rw [apply_ite (List.map _), own]
    rfl

/-- The type of the items of an array. -/
def itemType (context : Context) (stack : List Pointer) (schema : Schema) : Traced TypeExpr :=
  match schema.items with
  | none => .done .unknown
  | some node => typeOf context ⟨stack, node⟩

/-- The type of a form. -/
def formType (context : Context) (stack : List Pointer) (schema : Schema) :
    Form → Traced TypeExpr
  | .array => do
      let item ← itemType context stack schema
      match context.options.supportArrayLength, schema.fixedLength? with
      | true, some length => tupleType schema item length
      | _, _ => return .array item
  | .object => bodyType context (Body.ofSchema stack schema)
  | .keyword word => .done (.keyword word)

theorem formType_eq (context : Context) (stack : List Pointer) (schema : Schema) :
    (Visit.of context stack schema).formType = formType context stack schema := by
  funext form
  cases form with
  | array =>
      unfold Visit.formType Visit.arrayType formType
      dsimp only [Visit.of]
      split
      · rename_i absent
        have item : itemType context stack schema = .done .unknown := by
          simp only [itemType, absent]
        exact congrArg (· >>= _) item.symm
      · rename_i node given
        have item : itemType context stack schema = typeOf context ⟨stack, node⟩ := by
          simp only [itemType, given]
        exact congrArg (· >>= _) item.symm
  | object => exact bodyType_eq context _
  | keyword word => rfl

/-- The type of a schema, whether it admits `null` or not. -/
def coreType (context : Context) (stack : List Pointer) (schema : Schema) : Traced TypeExpr :=
  if schema.isComposed then
    (Traced.sequence (schema.clauses.map (clauseType context stack schema))).andThen fun types =>
      .done (.intersectionOf types)
  else
    match schema.const, schema.enum with
    | some value, _ => .ofWritten (constantType value)
    | none, some values => .ofWritten (enumType values)
    | none, none => do
        let types ← Traced.sequence (schema.forms.map (formType context stack schema))
        return .unionOf types

/-- The type of a schema by its clauses, its values or its forms. -/
theorem typeOf_schema (context : Context) (stack : List Pointer) (schema : Schema) :
    typeOf context ⟨stack, .inline schema⟩ = do
      let type ← coreType context stack schema
      return if schema.isNullable context.options then type.orNull else type := by
  have plain : (Visit.of context stack schema).plainType =
      match schema.const, schema.enum with
      | some value, _ => .ofWritten (constantType value)
      | none, some values => .ofWritten (enumType values)
      | none, none => do
          let types ← Traced.sequence (schema.forms.map (formType context stack schema))
          return .unionOf types := by
    unfold Visit.plainType
    rw [formType_eq]
    rfl
  rw [typeOf_inline]
  unfold Visit.type coreType
  rw [composedParts_eq, plain]
  by_cases composed : schema.isComposed = true
  · simp only [Visit.of, composed, if_true]
    rfl
  · simp only [Visit.of, composed, if_false, Bool.false_eq_true]
    rfl

end Typing
end ApiTypings
