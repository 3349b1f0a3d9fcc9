import ApiTypings.Proofs.TypeScript.Splitting
import ApiTypings.Proofs.Typing.Interfaces

/-!
# Types at top level

The texts of the types of schemas can be split, joined and put in parentheses as they are: the
scanner comes back to where it started in each of them. A schema that admits `null` has it as
a member, and only once more than its type has it without.
-/

namespace ApiTypings
namespace Typing

open Component Document TypeScript

/-- The text of a type that is found in some document, at some indentation. -/
inductive IsTypeText : String → Prop
  | mk
      {description : Description}
      {options : Options}
      {location : Option String}
      {stack : List Pointer}
      {node : Option Node}
      {type : TypeExpr}
      (finished :
        (typeOf? ⟨.ofDescription description, options, location⟩ stack node).result = .ok type)
      (level : Nat) :
      IsTypeText (type.render level)

theorem regular_ofDescription (description : Description) :
    Regular (Catalog.ofDescription description).Declares MemberKey.OfSchema where
  name := fun _ => nested_of_declares
  plain := by
    intro name declares operator joint inside
    have kept := List.all_eq_true.mp (Catalog.declares_spec declares).1 operator inside
    rcases (by simpa [isJoint] using joint : operator = '|' ∨ operator = '&') with rfl | rfl
    · exact absurd kept (by decide)
    · exact absurd kept (by decide)
  key := fun _ kept => ⟨(reads_key_ofSchema kept).1, nested_of_ofSchema kept⟩

theorem IsTypeText.exists_sound {text : String} (found : IsTypeText text) :
    ∃ (description : Description) (level : Nat) (type : TypeExpr), type.render level = text ∧
      type.Sound (Catalog.ofDescription description).Declares MemberKey.OfSchema := by
  obtain @⟨description, options, location, stack, node, type, finished, level⟩ := found
  refine ⟨description, level, type, rfl, ?_⟩
  refine yields_typeOf? (.keyword .unknown) ?_ stack node _ finished
  intro site type finished
  exact (gives_typeOf _ site type finished).1

theorem IsTypeText.passes {text : String} (found : IsTypeText text) :
    Scan.start.Passes text.toList Scan.start := by
  obtain ⟨description, level, type, rfl, sound⟩ := found.exists_sound
  exact sound.passes_render (regular_ofDescription description) level

/-- The members of a type, after `null` was added to those before if it is to be admitted and
is not among them. So there always is one then. -/
structure AddsNull (admits : Bool) (before after : List (List Char)) : Prop where
  members : after = before ++
    if admits = true ∧ "null".toList ∉ before then ["null".toList] else []
  present : admits = true → "null".toList ∈ after

theorem addsNull_of_eq
    {admits : Bool}
    {before after : List (List Char)}
    (members : after = before ++
      if admits = true ∧ "null".toList ∉ before then ["null".toList] else []) :
    AddsNull admits before after where
  members := members
  present := by
    intro admitted
    rw [members]
    by_cases known : "null".toList ∈ before
    · exact List.mem_append_left _ known
    · rw [if_pos ⟨admitted, known⟩]
      exact List.mem_append_right _ List.mem_cons_self

theorem addsNull_typeOf
    {description : Description}
    {options : Options}
    {location : Option String}
    {stack : List Pointer}
    {schema : Schema}
    {type : TypeExpr}
    (finished : (typeOf ⟨.ofDescription description, options, location⟩
      ⟨stack, .inline schema⟩).result = .ok type)
    (level : Nat) :
    ∃ core, (coreType ⟨.ofDescription description, options, location⟩ stack schema).result =
        .ok core ∧
      AddsNull (schema.isNullable options) (splitTopLevel (core.render level).toList '|')
        (splitTopLevel (type.render level).toList '|') := by
  have regular := regular_ofDescription description
  rw [typeOf_schema] at finished
  obtain ⟨core, typed, finished⟩ := Traced.exists_of_result_bind finished
  have sound := (gives_coreType (fun inner _ => gives_typeOf _ inner) core typed).1
  cases Traced.eq_of_result_pure finished
  refine ⟨core, typed, addsNull_of_eq ?_⟩
  by_cases admits : schema.isNullable options = true
  · rw [if_pos admits, sound.splitTopLevel_orNull regular]
    by_cases known : "null".toList ∈ splitTopLevel (core.render level).toList '|'
    · rw [if_pos known, if_neg (fun new => new.2 known)]
    · rw [if_neg known, if_pos ⟨admits, known⟩]
  · rw [if_neg admits, if_neg (fun new => admits new.1), List.append_nil]

/-- The scanner passes the text of every type. So texts of types that are joined fall into
their members, a type in parentheses is one member, and the members of a schema are those of
its type without `null`, to which `null` is added if it has to be. -/
theorem members_of_type_texts :
    (∀ text, IsTypeText text → Scan.start.Passes text.toList Scan.start) ∧
    (∀ texts : List String, texts ≠ [] → (∀ text ∈ texts, IsTypeText text) →
      splitTopLevel (" | ".intercalate texts).toList '|' =
        texts.flatMap fun text => splitTopLevel text.toList '|') ∧
    (∀ text, IsTypeText text → ∀ operator ∈ ['|', '&'],
      (splitTopLevel (parenthesize text.toList ['|', '&']) operator).length = 1) ∧
    ∀ description options location stack schema type level,
      (typeOf ⟨.ofDescription description, options, location⟩
        ⟨stack, .inline schema⟩).result = .ok type →
      ∃ core, (coreType ⟨.ofDescription description, options, location⟩ stack schema).result =
          .ok core ∧
        AddsNull (schema.isNullable options) (splitTopLevel (core.render level).toList '|')
          (splitTopLevel (type.render level).toList '|') := by
  refine ⟨fun _ => IsTypeText.passes, ?_, ?_, ?_⟩
  · intro texts some each
    have back : ∀ text ∈ texts.map String.toList, Scan.start.run text = Scan.start := by
      intro text listed
      obtain ⟨found, member, rfl⟩ := List.mem_map.mp listed
      exact (each found member).passes.ends
    rw [String.toList_intercalate, splitTopLevel_join (by simpa using some) back,
      List.flatMap_map]
  · intro text found operator listed
    obtain ⟨description, level, type, rfl, sound⟩ := found.exists_sound
    exact sound.length_parenthesize (regular_ofDescription description) level listed
  · intro description options location stack schema type level finished
    exact addsNull_typeOf finished level

/-- A string that may be `null`, twice. -/
theorem members_of_type_texts_of_default_null :
    IsTypeText "string | null" ∧
      splitTopLevel (" | ".intercalate ["string | null", "string | null"]).toList '|' =
        ["string".toList, "null".toList, "string".toList, "null".toList] := by
  let schema : Schema := { types := ["string"], default := some .null }
  have finished : (typeOf? ⟨.ofDescription {}, {}, none⟩ [] (some (.inline schema))).result =
      .ok (.union (.keyword .string) .null []) := by
    cbv
  have found : IsTypeText "string | null" := .mk finished 0
  refine ⟨found, ?_⟩
  rw [members_of_type_texts.2.1 _ (by simp) (by simp [found])]
  decide

/-- No types that are joined are one empty member, not none. -/
theorem splitTopLevel_join_nil :
    splitTopLevel (" | ".intercalate []).toList '|' = [[]] ∧
      splitTopLevel (" | ".intercalate []).toList '|' ≠
        ([] : List String).flatMap fun text => splitTopLevel text.toList '|' := by
  decide

end Typing
end ApiTypings
