import ApiTypings.Proofs.TypeScript.Nesting
import ApiTypings.Proofs.Typing.Faithful
import ApiTypings.Typing.Declarations

/-!
# The bodies of interfaces

An interface is declared for a plain object. Its body is one object body unless the
schema admits `null`: a default of `null` does so for a plain object, too.
-/

namespace ApiTypings
namespace TypeScript

/-- A text can be the body of an interface: it is in braces, and it is one member
under both operators. -/
structure IsObjectBody (body : String) : Prop where
  opened : body.toList.head? = some '{'
  closed : body.toList.getLast? = some '}'
  noUnion : (splitTopLevel body.toList '|').length = 1
  noIntersection : (splitTopLevel body.toList '&').length = 1

theorem TypeExpr.toList_render_object (level : Nat) (members : List (Member TypeExpr)) :
    ∃ inner, ((TypeExpr.object members).render level).toList = '{' :: (inner ++ ['}']) := by
  refine ⟨(("\n" ++ "\n".intercalate (renderMembers (level + 1) members) ++ "\n" ++
    indentation level)).toList, ?_⟩
  unfold TypeExpr.render
  simp

theorem TypeExpr.toList_render_orNull (level : Nat) (type : TypeExpr) :
    ((TypeExpr.union type .null []).render level).toList =
      (type.render level).toList ++ " | null".toList := by
  have joined : (TypeExpr.union type .null []).render level =
      " | ".intercalate [type.render level, "null"] := rfl
  rw [joined, String.toList_intercalate, List.map_cons, List.map_cons, List.map_nil,
    List.intercalate_cons_cons, List.intercalate_singleton, List.append_assoc]
  rfl

end TypeScript

namespace Typing

open Component Document TypeScript

/-- What is declared in a document spells its tokens, which are nested. -/
theorem nested_of_declares
    {description : Description}
    {name : String}
    (declares : (Catalog.ofDescription description).Declares name) :
    Spells name.toList (tokens name.toList) ∧ Nested (tokens name.toList) := by
  obtain ⟨declarable, _⟩ := Catalog.declares_spec declares
  have tame : name.toList.all isTame = true := by
    rw [List.all_eq_true] at declarable ⊢
    intro c member
    have here := declarable c member
    simp only [isDeclarable, Bool.or_eq_true, beq_iff_eq] at here
    rcases here with name | rfl
    · exact isTame_of_isNameChar name
    · decide
  have plain : name.toList.all isPlain = true := by
    rw [List.all_eq_true] at tame ⊢
    intro c member
    have here := tame c member
    simp only [isTame, Bool.and_eq_true] at here
    exact here.1.1
  exact ⟨spells_plain plain, nested_of_tame tame⟩

theorem nested_of_ofSchema {key : MemberKey} (kept : key.OfSchema) : Nested key.tokens := by
  cases key with
  | word name => contradiction
  | quoted name => exact .single rfl
  | anyKey =>
      have inner : Nested [.word "key", .mark ':', .word "string"] := .of_neutral (by decide)
      have outer : Nested (.mark '[' :: ([.word "key", .mark ':', .word "string"] ++ [.mark ']'])) :=
        .bracketed rfl rfl inner
      exact outer

theorem isObjectBody_object
    {description : Description}
    {members : List (Member TypeExpr)}
    (sound : (TypeExpr.object members).Sound (Catalog.ofDescription description).Declares
      MemberKey.OfSchema)
    (level : Nat) :
    IsObjectBody ((TypeExpr.object members).render level) := by
  have single {operator : Char} (joint : isJoint operator = true) :=
    length_splitTopLevel_object (fun _ => nested_of_declares)
      (fun _ kept => ⟨(reads_key_ofSchema kept).1, nested_of_ofSchema kept⟩) sound joint level
  obtain ⟨inner, text⟩ := TypeExpr.toList_render_object level members
  refine ⟨?_, ?_, single rfl, single rfl⟩
  · rw [text, List.head?_cons]
  · rw [text, ← List.cons_append, List.getLast?_append]
    rfl

/-! ## Plain objects -/

theorem forms_of_isPlainObject {schema : Schema} (plain : schema.isPlainObject = true) :
    schema.isComposed = false ∧ schema.const = none ∧ schema.enum = none ∧
      schema.forms = [.object] := by
  simp only [Schema.isPlainObject, Bool.and_eq_true, Bool.not_eq_true', Option.isNone_iff_eq_none]
    at plain
  obtain ⟨⟨⟨⟨⟨single, unlisted⟩, unfixed⟩, _⟩, noNull⟩, objects⟩ := plain
  refine ⟨single, unfixed, unlisted, ?_⟩
  split at objects
  · rename_i untyped
    simp [Schema.forms, List.isEmpty_iff.mp untyped, noNull, objects]
  · simp [Schema.forms, eq_of_beq objects, Form.ofName]

/-- The type of a plain object is that of its members. -/
theorem coreType_of_isPlainObject
    {context : Context}
    {stack : List Pointer}
    {schema : Schema}
    (plain : schema.isPlainObject = true)
    {core : TypeExpr}
    (finished : (coreType context stack schema).result = .ok core) :
    (∃ word, core = .record word) ∨ ∃ members, core = .object members := by
  obtain ⟨single, unfixed, unlisted, forms⟩ := forms_of_isPlainObject plain
  simp only [coreType, single, unfixed, unlisted, forms, Bool.false_eq_true, if_false] at finished
  obtain ⟨types, several, finished⟩ := Traced.exists_of_result_bind finished
  cases Traced.eq_of_result_pure finished
  cases Traced.forall₂_of_sequence several with
  | cons typed none =>
      cases none
      obtain ⟨members, _, typed⟩ := Traced.exists_of_result_bind typed
      obtain ⟨further, _, typed⟩ := Traced.exists_of_result_bind typed
      cases Traced.eq_of_result_pure typed
      unfold TypeExpr.objectOr
      split
      · exact .inl ⟨_, rfl⟩
      · exact .inr ⟨_, rfl⟩

/-- The type of a plain object is that of its members, to which `null` is added if the
schema admits it. -/
theorem typeOf_of_isPlainObject
    {context : Context}
    {stack : List Pointer}
    {schema : Schema}
    (plain : schema.isPlainObject = true)
    {type : TypeExpr}
    (finished : (typeOf context ⟨stack, .inline schema⟩).result = .ok type) :
    ∃ core, ((∃ word, core = .record word) ∨ ∃ members, core = .object members) ∧
      type = if schema.isNullable context.options then .union core .null [] else core := by
  rw [typeOf_schema] at finished
  obtain ⟨core, typed, finished⟩ := Traced.exists_of_result_bind finished
  cases Traced.eq_of_result_pure finished
  have plainCore := coreType_of_isPlainObject plain typed
  refine ⟨core, plainCore, ?_⟩
  split
  · rcases plainCore with ⟨word, rfl⟩ | ⟨members, rfl⟩ <;> rfl
  · rfl

/-- A body that starts with a brace is that of an object. -/
theorem exists_members_of_startsWith
    {core : TypeExpr}
    (plain : (∃ word, core = .record word) ∨ ∃ members, core = .object members)
    {admits : Bool}
    (opened : Text.startsWith ['{']
      ((if admits then TypeExpr.union core .null [] else core).render 0).toList = true) :
    ∃ members, core = .object members := by
  rcases plain with ⟨word, rfl⟩ | object
  · exfalso
    cases admits <;> cases word <;> exact absurd opened (by decide)
  · exact object

/-! ## Interfaces -/

/-- What a declaration is made of. -/
theorem schemaDeclaration_cases
    {catalog : Catalog}
    {options : Options}
    {entry : Pointer × String × Node}
    {declaration : Declaration}
    (finished : (schemaDeclaration catalog options entry).result = .ok declaration) :
    ∃ type, (typeOf ⟨catalog, options, some entry.1.text⟩ ⟨[entry.1], entry.2.2⟩).result = .ok type ∧
      declaration.name = entry.2.1 ∧ declaration.body = type.render 0 ∧
      declaration.kind = declarationKind options entry.2.2 (type.render 0) ∧
      declarationComment options entry.2.2 = .ok declaration.comment := by
  obtain ⟨pointer, name, node⟩ := entry
  obtain ⟨type, typed, finished⟩ := Traced.exists_of_result_bind finished
  obtain ⟨comment, written, finished⟩ := Traced.exists_of_result_bind finished
  obtain ⟨_, _, finished⟩ := Traced.exists_of_result_bind finished
  cases Traced.eq_of_result_pure finished
  exact ⟨type, typed, rfl, rfl, rfl, Traced.ofWritten_eq_ok written⟩

theorem interface_cases
    {options : Options}
    {node : Node}
    {body : String}
    (kind : declarationKind options node body = .interface) :
    ∃ schema, node = .inline schema ∧ schema.isPlainObject = true ∧
      Text.startsWith ['{'] body.toList = true := by
  unfold declarationKind at kind
  split at kind
  · rename_i chosen
    simp only [Bool.and_eq_true] at chosen
    cases node with
    | reference reference => exact absurd chosen.1.2 (by simp [isPlainObject])
    | inline schema => exact ⟨schema, rfl, chosen.1.2, chosen.2⟩
  · contradiction

/-- An object that admits `null` does not end with a brace. -/
theorem not_isObjectBody_orNull (members : List (Member TypeExpr)) :
    ¬ IsObjectBody ((TypeExpr.union (.object members) .null []).render 0) := by
  intro single
  have closed := single.closed
  rw [TypeExpr.toList_render_orNull, List.getLast?_append] at closed
  cases closed

/-- Every interface is declared for an inline schema, and its body is one object body
exactly if the schema does not admit `null`. -/
theorem isObjectBody_interface_iff
    (description : Description)
    (options : Options)
    {declarations : List Declaration}
    (finished :
      (schemaDeclarations (.ofDescription description) options).result = .ok declarations)
    {declaration : Declaration}
    (listed : declaration ∈ declarations)
    (interface : declaration.kind = .interface) :
    ∃ pointer schema,
      (pointer, declaration.name, .inline schema) ∈
        (Catalog.ofDescription description).declarations ∧
      (schemaDeclaration (.ofDescription description) options
        (pointer, declaration.name, .inline schema)).result = .ok declaration ∧
      (IsObjectBody declaration.body ↔ schema.isNullable options = false) := by
  obtain ⟨unsorted, several, finished⟩ := Traced.exists_of_result_bind finished
  cases Traced.eq_of_result_pure finished
  have member : declaration ∈ unsorted := by
    split at listed
    · exact List.mem_mergeSort.mp listed
    · exact listed
  obtain ⟨⟨pointer, name, node⟩, inCatalog, made⟩ :=
    exists_left_of_forall₂ (Traced.forall₂_of_sequence several) member
  obtain ⟨type, typed, rfl, body, kind, _⟩ := schemaDeclaration_cases made
  rw [interface] at kind
  obtain ⟨schema, rfl, plain, opened⟩ := interface_cases kind.symm
  refine ⟨pointer, schema, inCatalog, made, ?_⟩
  obtain ⟨core, plainCore, rfl⟩ := typeOf_of_isPlainObject plain typed
  obtain ⟨members, rfl⟩ := exists_members_of_startsWith plainCore opened
  have sound := (gives_typeOf _ _ _ typed).1
  rw [body]
  by_cases admits : schema.isNullable options = true
  · rw [if_pos admits, admits]
    refine iff_of_false (not_isObjectBody_orNull members) ?_
    decide
  · rw [if_neg admits] at sound ⊢
    exact iff_of_true (isObjectBody_object sound 0) (Bool.eq_false_of_not_eq_true admits)

/-- An object whose key looks like a union. -/
theorem isObjectBody_interface_iff_of_key :
    let schema : Schema :=
      { types := ["object"], properties := some [("a | b", .inline { types := ["string"] })] }
    let description : Description := { components := { schemas := [("A", .inline schema)] } }
    let declaration : Declaration :=
      ⟨"A", .interface, "\x7b\n  \"a | b\"?: string;\n\x7d", []⟩
    (schemaDeclarations (.ofDescription description) {}).result = .ok [declaration] ∧
      declaration.kind = .interface ∧ IsObjectBody declaration.body := by
  intro schema description declaration
  have finished : (schemaDeclarations (.ofDescription description) {}).result =
      .ok [declaration] := by
    cbv
  have interface : declaration.kind = .interface := rfl
  obtain ⟨pointer, found, inCatalog, _, single⟩ :=
    isObjectBody_interface_iff description {} finished List.mem_cons_self interface
  have same : found = schema := by
    have entry := List.mem_singleton.mp inCatalog
    simp only [Prod.mk.injEq, OrReference.inline.injEq] at entry
    exact entry.2.2
  refine ⟨finished, interface, single.mpr ?_⟩
  rw [same]
  rfl

/-- An object with a default of `null` is declared as an interface, but its body is a
union. -/
theorem not_isObjectBody_of_default_null :
    let schema : Schema :=
      { types := ["object"]
        properties := some [("a", .inline { types := ["string"] })]
        default := some .null }
    let description : Description := { components := { schemas := [("A", .inline schema)] } }
    let declaration : Declaration :=
      ⟨"A", .interface, "\x7b\n  \"a\"?: string;\n\x7d | null", []⟩
    (schemaDeclarations (.ofDescription description) {}).result = .ok [declaration] ∧
      ¬ IsObjectBody declaration.body := by
  intro schema description declaration
  refine ⟨by cbv, ?_⟩
  intro single
  exact absurd single.closed (by decide)

end Typing
end ApiTypings
