import ApiTypings.Proofs.Component.Distinct
import ApiTypings.Proofs.Typing.Interfaces

/-!
# The names of a module

No two declarations of a module have the same name: those of schemas are distinct, and
the name of the declaration of all paths is not among them.
-/

namespace ApiTypings
namespace Typing

open Component Document TypeScript

variable {catalog : Catalog} {options : Options}

/-- There is a declaration of all paths exactly if there are paths. -/
theorem pathsDeclaration_cases
    {paths : Option Declaration}
    (finished : (pathsDeclaration catalog options).result = .ok paths) :
    (paths.isSome = true ↔ catalog.description.paths ≠ []) ∧
      ∀ declaration ∈ paths, declaration.name = pathsName := by
  unfold pathsDeclaration at finished
  split at finished
  · rename_i none
    cases Traced.eq_of_result_pure finished
    simp [none]
  · rename_i present
    obtain ⟨members, _, finished⟩ := Traced.exists_of_result_bind finished
    cases Traced.eq_of_result_pure finished
    refine ⟨iff_of_true rfl present, ?_⟩
    rintro _ ⟨⟩
    rfl

/-- The declarations of schemas have the names of the catalog, in some order. -/
theorem perm_name_schemaDeclarations
    {declarations : List Declaration}
    (finished : (schemaDeclarations catalog options).result = .ok declarations) :
    (declarations.map Declaration.name).Perm (catalog.declarations.map fun entry => entry.2.1) := by
  obtain ⟨unsorted, several, finished⟩ := Traced.exists_of_result_bind finished
  cases Traced.eq_of_result_pure finished
  have names : unsorted.map Declaration.name = catalog.declarations.map fun entry => entry.2.1 := by
    refine map_eq_map_of_forall₂ ?_ (Traced.forall₂_of_sequence several)
    intro entry declaration made
    obtain ⟨_, _, name, _⟩ := schemaDeclaration_cases made
    exact name
  rw [← names]
  split
  · exact (List.mergeSort_perm _ _).map Declaration.name
  · exact .refl _

/-- A module consists of the declaration of all paths and those of schemas. -/
theorem generateFrom_cases
    {description : Description}
    {text : String}
    (finished : (generateFrom description options).result = .ok text) :
    ∃ paths declarations,
      (pathsDeclaration (.ofDescription description) options).result = .ok paths ∧
      (schemaDeclarations (.ofDescription description) options).result = .ok declarations ∧
      text = moduleText options.header (paths.toList ++ declarations) := by
  obtain ⟨_, _, finished⟩ := Traced.exists_of_result_bind finished
  obtain ⟨paths, ofPaths, finished⟩ := Traced.exists_of_result_bind finished
  obtain ⟨declarations, ofSchemas, finished⟩ := Traced.exists_of_result_bind finished
  obtain ⟨_, _, finished⟩ := Traced.exists_of_result_bind finished
  exact ⟨paths, declarations, ofPaths, ofSchemas, Traced.eq_of_result_pure finished⟩

/-- The declarations of a module have distinct names. -/
theorem nodup_names_of_generateFrom
    {description : Description}
    (distinct : (Entries.keys description.components.schemas).Nodup)
    {paths : Option Declaration}
    {declarations : List Declaration}
    (ofPaths : (pathsDeclaration (.ofDescription description) options).result = .ok paths)
    (ofSchemas :
      (schemaDeclarations (.ofDescription description) options).result = .ok declarations) :
    ((paths.toList ++ declarations).map Declaration.name).Nodup := by
  have order := perm_name_schemaDeclarations ofSchemas
  rw [Catalog.map_name_declarations distinct] at order
  obtain ⟨present, named⟩ := pathsDeclaration_cases ofPaths
  cases paths with
  | none => exact order.nodup_iff.mpr (Catalog.nodup_names description)
  | some declaration =>
      have name : declaration.name = pathsName := named declaration rfl
      rw [Option.toList_some, List.singleton_append, List.map_cons, name, List.nodup_cons]
      refine ⟨?_, order.nodup_iff.mpr (Catalog.nodup_names description)⟩
      intro again
      exact Catalog.pathsName_not_mem_names (present.mp rfl) (order.mem_iff.mp again)

/-- The search for a free name ends at the least number that makes it new. In every run
the declarations of the module, that of all paths among them exactly if there are paths,
have distinct names. Every component schema has an entry of its own in the table of names,
under a pointer of its own, and schemas that are appended change none of the entries. -/
theorem nodup_rendered_names
    (description : Description)
    (distinct : (Entries.keys description.components.schemas).Nodup) :
    (∀ (taken : List String) (wanted : String), wanted ∈ taken →
      ∃ number, IsLeast {number | 0 < number ∧ wanted ++ toString number ∉ taken} number ∧
        freshName taken wanted = wanted ++ toString number) ∧
    (∀ (options : Options) (text : String), (generateFrom description options).result = .ok text →
      ∃ paths declarations,
        text = moduleText options.header (paths.toList ++ declarations) ∧
        (pathsDeclaration (.ofDescription description) options).result = .ok paths ∧
        (schemaDeclarations (.ofDescription description) options).result = .ok declarations ∧
        (paths.isSome = true ↔ description.paths ≠ []) ∧
        (∀ declaration ∈ paths, declaration.name = pathsName) ∧
        declarations.length = description.components.schemas.length ∧
        ((paths.toList ++ declarations).map Declaration.name).Nodup) ∧
    (Catalog.ofDescription description).names.map Prod.fst =
      Entries.keys description.components.schemas ∧
    ((Catalog.ofDescription description).names.map Prod.snd).Nodup ∧
    ((Entries.keys description.components.schemas).map fun name =>
      (Pointer.mk .schemas name).text).Nodup ∧
    ∀ (extended : Description) (more : List String),
      Entries.keys extended.components.schemas =
        Entries.keys description.components.schemas ++ more →
      extended.paths.isEmpty = description.paths.isEmpty →
      ∀ key ∈ Entries.keys description.components.schemas,
        ∃ name, (Catalog.ofDescription description).names.lookup key = some name ∧
          (Catalog.ofDescription extended).names.lookup key = some name := by
  refine ⟨fun _ _ known => freshName_isLeast known, ?_, Catalog.map_fst_names description,
    Catalog.nodup_names description, ?_, ?_⟩
  · intro options text finished
    obtain ⟨paths, declarations, ofPaths, ofSchemas, rfl⟩ := generateFrom_cases finished
    obtain ⟨present, named⟩ := pathsDeclaration_cases ofPaths
    have count := (perm_name_schemaDeclarations ofSchemas).length_eq
    rw [List.length_map, List.length_map] at count
    refine ⟨paths, declarations, rfl, ofPaths, ofSchemas, present, named, ?_,
      nodup_names_of_generateFrom distinct ofPaths ofSchemas⟩
    rw [count]
    exact List.length_map _
  · refine distinct.map ?_
    intro one another same
    exact congrArg Pointer.name (Pointer.text_injective same)
  · intro extended more appended paths key listed
    exact Catalog.lookup_names_of_append appended paths listed

/-- Names that are sanitized alike, a name that is numbered already, and a schema with the
name of the declaration of all paths. -/
theorem nodup_rendered_names_of_collisions :
    let keys := ["A", "A1", "A?", "paths"]
    let schemas : List (String × Node) := keys.map fun key => (key, .inline { types := ["string"] })
    let description : Description := { paths := [("/", {})], components := { schemas := schemas } }
    (Entries.keys description.components.schemas).Nodup ∧
      ((Catalog.ofDescription description).names.map Prod.snd).Nodup ∧
      (Catalog.ofDescription description).names.map Prod.snd = ["A", "A1", "A2", "paths1"] := by
  intro keys schemas description
  have distinct : (Entries.keys description.components.schemas).Nodup := by
    decide
  obtain ⟨_, _, _, names, _⟩ := nodup_rendered_names description distinct
  exact ⟨distinct, names, by cbv⟩

end Typing
end ApiTypings
