import ApiTypings.Proofs.Entries
import ApiTypings.Proofs.Typing.Merging

/-!
# A single branch

A schema that is the only branch of `allOf` is taken apart like any other branch, and put
together again. Two things get lost on the way: that a plain object admits `null` by its
default, and that a merge without branches says nothing. All other schemas have the same
type as a single branch and on their own.
-/

namespace ApiTypings
namespace Document
namespace Schema

/-- The schema as the only branch of `allOf`. -/
def asBranch (schema : Schema) : Schema :=
  { allOf := some [.inline schema] }

/-- A plain object admits `null`: its default says so, as its type cannot. -/
structure HidesNull (options : Options) (schema : Schema) : Prop where
  plain : schema.isPlainObject = true
  admits : schema.isNullable options = true

/-- There is nothing to merge. -/
structure MergesNothing (options : Options) (schema : Schema) : Prop where
  merges : schema.isMerge = true
  present : schema.isNullable options = false
  branchless : schema.allOf = some []
  keywordless : schema.hasObjectKeywords = false

theorem isNullable_asBranch (options : Options) (schema : Schema) :
    schema.asBranch.isNullable options = false := by
  simp [isNullable, declaresNull, asBranch]

end Schema

end Document

namespace Typing

open Component Document TypeScript

/-! ## Bodies of single branches -/

/-- A single body stays as it is when it is merged. -/
theorem merge_singleton {body : Body} (distinct : (Entries.keys body.properties).Nodup) :
    Body.merge [body] = body := by
  obtain ⟨properties, required, additional⟩ := body
  have members : Entries.ofPairs properties = properties := Entries.ofPairs_eq_self distinct
  cases additional <;> simp [Body.merge, members]

theorem keys_ofSchema (stack : List Pointer) (schema : Schema) :
    Entries.keys (Body.ofSchema stack schema).properties =
      Entries.keys (schema.properties.getD []) := by
  simp [Body.ofSchema, Entries.keys]

/-- The bodies of a single branch are those of the schema. -/
theorem mergedBodies_asBranch (context : Context) (stack : List Pointer) (schema : Schema) :
    (mergedBodies stack schema.asBranch [.inline schema] fun node _ =>
      bodiesOf context ⟨stack, node⟩) = bodiesOf context ⟨stack, .inline schema⟩ := by
  have own : siblings stack schema.asBranch = [] := rfl
  cases taken : bodiesOf context ⟨stack, .inline schema⟩ with
  | error error => simp only [mergedBodies, gather, taken]
  | ok bodies =>
      cases bodies <;> simp only [mergedBodies, gather, taken, own, List.append_nil]

/-! ## Types of single branches -/

/-- The type of a single branch: one object if the branch can be taken apart. -/
theorem typeOf_asBranch (context : Context) (stack : List Pointer) (schema : Schema) :
    typeOf context ⟨stack, .inline schema.asBranch⟩ =
      match bodiesOf context ⟨stack, .inline schema⟩ with
      | .error error => .fail error
      | .ok (some bodies) => bodyType context (Body.merge bodies)
      | .ok none => typeOf context ⟨stack, .inline schema⟩ := by
  have memberless : schema.asBranch.hasMembers = false := rfl
  rw [typeOf_of_isMerge stack rfl (Schema.isNullable_asBranch _ schema) rfl]
  simp only [clauseType, mergedBodies_asBranch, memberless, List.isEmpty_cons, Bool.false_and,
    Bool.false_eq_true, if_false]
  cases bodiesOf context ⟨stack, .inline schema⟩ with
  | error error => rfl
  | ok bodies =>
      cases bodies with
      | none => exact sequence_singleton intersectionOf_singleton _
      | some bodies => rfl

variable {context : Context} {stack : List Pointer} {schema : Schema}

/-- As a single branch, a plain object has the type of its members. -/
theorem typeOf_asBranch_of_isPlainObject
    (distinct : (Entries.keys (schema.properties.getD [])).Nodup)
    (plain : schema.isPlainObject = true) :
    typeOf context ⟨stack, .inline schema.asBranch⟩ = coreType context stack schema := by
  rw [← keys_ofSchema stack] at distinct
  rw [typeOf_asBranch, bodiesOf_inline, if_pos plain, coreType_eq_bodyType context stack plain]
  dsimp only
  rw [merge_singleton distinct]

/-- The type of a schema that can be taken apart is put together from its bodies, unless
there is nothing to merge. -/
theorem typeOf_asBranch_of_isMerge
    (merges : schema.isMerge = true)
    (present : schema.isNullable context.options = false)
    (something : ¬ schema.MergesNothing context.options) :
    typeOf context ⟨stack, .inline schema.asBranch⟩ = typeOf context ⟨stack, .inline schema⟩ := by
  have some := merges
  simp only [Schema.isMerge, Bool.and_eq_true] at some
  obtain ⟨branches, given⟩ := Option.isSome_iff_exists.mp some.1.1.1
  have filled : (branches.isEmpty && !schema.hasObjectKeywords) = false := by
    rw [Bool.eq_false_iff]
    intro empty
    simp only [Bool.and_eq_true, List.isEmpty_iff, Bool.not_eq_true'] at empty
    exact something ⟨merges, present, empty.1 ▸ given, empty.2⟩
  rw [typeOf_asBranch, bodiesOf_of_isMerge stack merges present given]
  cases taken : mergedBodies stack schema branches fun node _ => bodiesOf context ⟨stack, node⟩ with
  | error error =>
      rw [typeOf_of_isMerge stack merges present given]
      simp only [clauseType, taken]
  | ok bodies =>
      cases bodies with
      | none => rfl
      | some bodies =>
          rw [typeOf_of_isMerge stack merges present given]
          simp only [clauseType, taken, filled, Bool.false_eq_true, if_false]

/-- A single branch has the type of the schema, unless something gets lost. -/
theorem typeOf_asBranch_eq
    (distinct : (Entries.keys (schema.properties.getD [])).Nodup)
    (visible : ¬ schema.HidesNull context.options)
    (something : ¬ schema.MergesNothing context.options) :
    typeOf context ⟨stack, .inline schema.asBranch⟩ = typeOf context ⟨stack, .inline schema⟩ := by
  by_cases plain : schema.isPlainObject = true
  · have present : schema.isNullable context.options = false := by
      rw [Bool.eq_false_iff]
      exact fun admits => visible ⟨plain, admits⟩
    rw [typeOf_asBranch_of_isPlainObject distinct plain, typeOf_of_present stack present]
  · by_cases merges : schema.isMerge = true ∧ schema.isNullable context.options = false
    · exact typeOf_asBranch_of_isMerge merges.1 merges.2 something
    · have whole : bodiesOf context ⟨stack, .inline schema⟩ = .ok none := by
        rw [bodiesOf_inline, if_neg plain, if_neg (by simpa using merges)]
      rw [typeOf_asBranch, whole]

/-- A single branch does not tell that a plain object admits `null`. -/
theorem typeOf_of_hidesNull
    (distinct : (Entries.keys (schema.properties.getD [])).Nodup)
    (hides : schema.HidesNull context.options) :
    typeOf context ⟨stack, .inline schema⟩ = do
      let type ← typeOf context ⟨stack, .inline schema.asBranch⟩
      return type.orNull := by
  rw [typeOf_asBranch_of_isPlainObject distinct hides.plain, typeOf_schema, hides.admits]
  rfl

/-- Where the members of an object have no type, nothing else can get lost. -/
theorem typeOf_asBranch_eq_of_error
    (distinct : (Entries.keys (schema.properties.getD [])).Nodup)
    (hides : schema.HidesNull context.options)
    (failed : ¬ (typeOf context ⟨stack, .inline schema⟩).result.isOk = true) :
    typeOf context ⟨stack, .inline schema.asBranch⟩ = typeOf context ⟨stack, .inline schema⟩ := by
  rw [typeOf_of_hidesNull distinct hides] at failed ⊢
  generalize typeOf context ⟨stack, .inline schema.asBranch⟩ = branch at failed ⊢
  obtain ⟨events, result⟩ := branch
  cases result with
  | error interruption => rfl
  | ok type => exact absurd rfl failed

/-- As a single branch, a merge of nothing is an object. -/
theorem typeOf_of_mergesNothing (nothing : schema.MergesNothing context.options) :
    typeOf context ⟨stack, .inline schema⟩ = .done .unknown ∧
      typeOf context ⟨stack, .inline schema.asBranch⟩ =
        typeOf context ⟨stack, .inline { types := ["object"] }⟩ := by
  have own : siblings stack schema = [] := by
    simp [siblings, nothing.keywordless]
  have taken : (mergedBodies stack schema [] fun node _ => bodiesOf context ⟨stack, node⟩) =
      .ok (some []) := by
    simp only [mergedBodies, gather, own, List.append_nil]
  constructor
  · rw [typeOf_of_isMerge stack nothing.merges nothing.present nothing.branchless]
    simp [clauseType, taken, nothing.keywordless]
  · have present : Schema.isNullable context.options { types := ["object"] } = false := by
      simp [Schema.isNullable, Schema.declaresNull]
    rw [typeOf_asBranch, bodiesOf_of_isMerge stack nothing.merges nothing.present nothing.branchless,
      taken, typeOf_of_present stack present, coreType_eq_bodyType context stack (by decide)]
    rfl

/-! ## Texts of single branches -/

/-- The text of a type, if the type is found. -/
def textOf (context : Context) (level : Nat) (site : Site) : Except Interruption String :=
  (typeOf context site).result.map (TypeExpr.render level)

theorem textOf_ne_of_hidesNull
    (distinct : (Entries.keys (schema.properties.getD [])).Nodup)
    (hides : schema.HidesNull context.options)
    (found : (typeOf context ⟨stack, .inline schema⟩).result.isOk = true)
    (level : Nat) :
    textOf context level ⟨stack, .inline schema.asBranch⟩ ≠
      textOf context level ⟨stack, .inline schema⟩ := by
  cases finished : (typeOf context ⟨stack, .inline schema⟩).result with
  | error interruption =>
      rw [finished] at found
      contradiction
  | ok type =>
      rw [typeOf_of_hidesNull distinct hides] at finished
      obtain ⟨core, typed, finished⟩ := Traced.exists_of_result_bind finished
      cases Traced.eq_of_result_pure finished
      have branch : textOf context level ⟨stack, .inline schema.asBranch⟩ =
          .ok (core.render level) := by
        rw [textOf, typed]
        rfl
      have bare : textOf context level ⟨stack, .inline schema⟩ =
          .ok (core.orNull.render level) := by
        rw [textOf, typeOf_of_hidesNull distinct hides, Traced.result_bind, typed]
        rfl
      rw [typeOf_asBranch_of_isPlainObject distinct hides.plain] at typed
      have union : core.orNull = .union core .null [] := by
        rcases coreType_of_isPlainObject hides.plain typed with ⟨word, rfl⟩ | ⟨members, rfl⟩ <;> rfl
      rw [branch, bare, union, ne_eq, Except.ok.injEq]
      intro same
      have longer := congrArg (fun text => text.toList.length) same
      simp only [TypeExpr.toList_render_orNull, List.length_append] at longer
      exact absurd longer (by simp)

/-- The type of an object of which nothing is said. -/
theorem typeOf_unspecified (context : Context) (stack : List Pointer) :
    typeOf context ⟨stack, .inline { types := ["object"] }⟩ =
      .done (if context.options.additionalProperties then
        .object [⟨.anyKey, .unknown, false, context.options.immutable, []⟩]
      else .record .unknown) := by
  have present : Schema.isNullable context.options { types := ["object"] } = false := by
    simp [Schema.isNullable, Schema.declaresNull]
  rw [typeOf_of_present stack present, coreType_eq_bodyType context stack (by decide)]
  unfold bodyType indexType
  cases context.options.additionalProperties <;> rfl

theorem textOf_ne_of_mergesNothing
    (nothing : schema.MergesNothing context.options)
    (level : Nat) :
    textOf context level ⟨stack, .inline schema.asBranch⟩ ≠
      textOf context level ⟨stack, .inline schema⟩ := by
  obtain ⟨bare, branch⟩ := @typeOf_of_mergesNothing context stack schema nothing
  rw [typeOf_unspecified] at branch
  have word : TypeExpr.unknown.render level = "unknown" := rfl
  have record : (TypeExpr.record .unknown).render level = "Record<string, unknown>" := rfl
  rw [textOf, textOf, bare, branch]
  intro same
  replace same := Except.ok.inj same
  rw [word] at same
  split at same
  · obtain ⟨inner, text⟩ := TypeExpr.toList_render_object level
      [⟨.anyKey, .unknown, false, context.options.immutable, []⟩]
    have first : "unknown".toList.head? = some '{' := by
      rw [← same, text, List.head?_cons]
    exact absurd first (by decide)
  · rw [record] at same
    exact absurd same (by decide)

/-! ## All schemas -/

/-- As the only branch of `allOf`, a schema has the type, and at every level the text, that
it has on its own, except in two cases. A plain object that admits `null` by its default
loses `null`, and a merge of nothing becomes an object. -/
theorem typeOf_asBranch_eq_iff
    (context : Context)
    (stack : List Pointer)
    {schema : Schema}
    (distinct : (Entries.keys (schema.properties.getD [])).Nodup) :
    (typeOf context ⟨stack, .inline schema.asBranch⟩ = typeOf context ⟨stack, .inline schema⟩ ↔
      ¬ (schema.HidesNull context.options ∧
        (typeOf context ⟨stack, .inline schema⟩).result.isOk = true) ∧
      ¬ schema.MergesNothing context.options) ∧
    (∀ level,
      textOf context level ⟨stack, .inline schema.asBranch⟩ =
          textOf context level ⟨stack, .inline schema⟩ ↔
        typeOf context ⟨stack, .inline schema.asBranch⟩ =
          typeOf context ⟨stack, .inline schema⟩) ∧
    (schema.HidesNull context.options →
      typeOf context ⟨stack, .inline schema⟩ = do
        let type ← typeOf context ⟨stack, .inline schema.asBranch⟩
        return type.orNull) ∧
    (schema.MergesNothing context.options →
      typeOf context ⟨stack, .inline schema⟩ = .done .unknown ∧
        typeOf context ⟨stack, .inline schema.asBranch⟩ =
          typeOf context ⟨stack, .inline { types := ["object"] }⟩) := by
  have kept
      (visible : ¬ (schema.HidesNull context.options ∧
        (typeOf context ⟨stack, .inline schema⟩).result.isOk = true))
      (something : ¬ schema.MergesNothing context.options) :
      typeOf context ⟨stack, .inline schema.asBranch⟩ =
        typeOf context ⟨stack, .inline schema⟩ := by
    by_cases hides : schema.HidesNull context.options
    · exact typeOf_asBranch_eq_of_error distinct hides fun found => visible ⟨hides, found⟩
    · exact typeOf_asBranch_eq distinct hides something
  have lost (level : Nat)
      (same : textOf context level ⟨stack, .inline schema.asBranch⟩ =
        textOf context level ⟨stack, .inline schema⟩) :
      ¬ (schema.HidesNull context.options ∧
        (typeOf context ⟨stack, .inline schema⟩).result.isOk = true) ∧
      ¬ schema.MergesNothing context.options :=
    ⟨fun hides => textOf_ne_of_hidesNull distinct hides.1 hides.2 level same,
      fun nothing => textOf_ne_of_mergesNothing nothing level same⟩
  have texts (level : Nat)
      (same : typeOf context ⟨stack, .inline schema.asBranch⟩ =
        typeOf context ⟨stack, .inline schema⟩) :
      textOf context level ⟨stack, .inline schema.asBranch⟩ =
        textOf context level ⟨stack, .inline schema⟩ := by
    rw [textOf, same, textOf]
  refine ⟨⟨fun same => lost 0 (texts 0 same), fun whole => kept whole.1 whole.2⟩, ?_,
    typeOf_of_hidesNull distinct, typeOf_of_mergesNothing⟩
  intro level
  refine ⟨fun same => ?_, texts level⟩
  obtain ⟨visible, something⟩ := lost level same
  exact kept visible something

/-- An object whose types name `null` keeps it. -/
theorem typeOf_asBranch_eq_iff_of_declared_null :
    let schema : Schema :=
      { types := ["object", "null"]
        properties := some [("a", .inline { types := ["string"] }), ("b", .inline {})]
        required := ["a"]
        default := some .null }
    let context : Context := ⟨.ofDescription {}, {}, none⟩
    (Entries.keys (schema.properties.getD [])).Nodup ∧
      ¬ schema.HidesNull context.options ∧ ¬ schema.MergesNothing context.options ∧
      textOf context 0 ⟨[], .inline schema.asBranch⟩ =
        .ok "\x7b\n  \"a\": string;\n  \"b\"?: unknown;\n\x7d | null" := by
  intro schema context
  have distinct : (Entries.keys (schema.properties.getD [])).Nodup := by
    decide
  have visible : ¬ schema.HidesNull context.options := fun hides =>
    absurd hides.plain (by decide)
  have something : ¬ schema.MergesNothing context.options := fun nothing =>
    absurd nothing.merges (by decide)
  obtain ⟨kept, texts, _⟩ := typeOf_asBranch_eq_iff context [] distinct
  have same := kept.mpr ⟨fun lost => visible lost.1, something⟩
  refine ⟨distinct, visible, something, ?_⟩
  rw [(texts 0).mpr same]
  cbv

/-- A single branch that is an object with a default of `null` is written without `null`,
and one that merges nothing is written as an object. -/
theorem textOf_asBranch_ne :
    let object : Schema :=
      { types := ["object"]
        properties := some [("a", .inline { types := ["string"] })]
        default := some .null }
    let nothing : Schema := { allOf := some [] }
    let context : Context := ⟨.ofDescription {}, {}, none⟩
    textOf context 0 ⟨[], .inline object.asBranch⟩ = .ok "\x7b\n  \"a\"?: string;\n\x7d" ∧
      textOf context 0 ⟨[], .inline object⟩ = .ok "\x7b\n  \"a\"?: string;\n\x7d | null" ∧
      textOf context 0 ⟨[], .inline nothing.asBranch⟩ = .ok "Record<string, unknown>" ∧
      textOf context 0 ⟨[], .inline nothing⟩ = .ok "unknown" := by
  intro object nothing context
  have members : coreType context [] object = bodyType context (Body.ofSchema [] object) :=
    coreType_eq_bodyType context [] (by decide)
  have branch := @typeOf_asBranch_of_isPlainObject context [] object (by decide) (by decide)
  obtain ⟨bareNothing, branchNothing⟩ := @typeOf_of_mergesNothing context [] nothing
    ⟨rfl, rfl, rfl, rfl⟩
  rw [typeOf_unspecified] at branchNothing
  refine ⟨?_, by cbv, ?_, ?_⟩
  · rw [textOf, branch, members]
    cbv
  · rw [textOf, branchNothing]
    rfl
  · rw [textOf, bareNothing]
    rfl

end Typing
end ApiTypings
