import ApiTypings.Proofs.Component.Outline
import ApiTypings.Proofs.Typing.ModuleCongruence
import ApiTypings.Proofs.Typing.RenderedNames

/-!
# Alphabetical order

Sorting the declarations changes their order and nothing else, and their names are strictly
increasing then. What is left does not depend on the order of the component schemas, unless
names have to be numbered.
-/

namespace ApiTypings

/-! ## Lookups in tables that are rearranged -/

theorem lookup_eq_of_perm
    {α : Type}
    {table other : List (String × α)}
    (rearranged : other.Perm table)
    (distinct : (Entries.keys table).Nodup)
    (key : String) :
    other.lookup key = table.lookup key := by
  have distinctToo : (Entries.keys other).Nodup := (rearranged.map Prod.fst).nodup_iff.mpr distinct
  ext value
  constructor
  · intro found
    exact Component.lookup_eq_some_of_mem distinct (rearranged.subset (Entries.mem_of_lookup found))
  · intro found
    exact Component.lookup_eq_some_of_mem distinctToo
      (rearranged.symm.subset (Entries.mem_of_lookup found))

theorem mergeSort_eq_of_perm {names others : List String} (rearranged : others.Perm names) :
    others.mergeSort (fun a b => decide (a ≤ b)) = names.mergeSort fun a b => decide (a ≤ b) := by
  have order : (others.mergeSort fun a b => decide (a ≤ b)).Perm
      (names.mergeSort fun a b => decide (a ≤ b)) :=
    ((List.mergeSort_perm _ _).trans rearranged).trans (List.mergeSort_perm _ _).symm
  exact order.eq_of_pairwise' (List.pairwise_mergeSort' (· ≤ ·) others)
    (List.pairwise_mergeSort' (· ≤ ·) names)

namespace Typing

open Component Document TypeScript

/-! ## Sorted declarations -/

/-- Declarations by name. -/
def sorted (declarations : List Declaration) : List Declaration :=
  declarations.mergeSort fun one another => decide (one.name ≤ another.name)

theorem sorted_perm (declarations : List Declaration) :
    (sorted declarations).Perm declarations :=
  List.mergeSort_perm _ _

theorem pairwise_sorted (declarations : List Declaration) :
    (sorted declarations).Pairwise fun one another => one.name ≤ another.name := by
  have ordered : (sorted declarations).Pairwise fun one another =>
      decide (one.name ≤ another.name) = true := by
    apply List.pairwise_mergeSort
    · intro one another third first second
      rw [decide_eq_true_iff] at first second ⊢
      exact first.trans second
    · intro one another
      rw [Bool.or_eq_true, decide_eq_true_iff, decide_eq_true_iff]
      exact le_total _ _
  exact ordered.imp of_decide_eq_true

/-- Distinct names are strictly increasing when they are sorted. -/
theorem pairwise_lt_sorted
    {declarations : List Declaration}
    (distinct : (declarations.map Declaration.name).Nodup) :
    ((sorted declarations).map Declaration.name).Pairwise (· < ·) := by
  have distinctToo : ((sorted declarations).map Declaration.name).Nodup :=
    ((sorted_perm declarations).map Declaration.name).nodup_iff.mpr distinct
  rw [List.pairwise_map]
  refine ((pairwise_sorted declarations).and (List.pairwise_map.mp distinctToo)).imp ?_
  rintro one another ⟨ordered, different⟩
  exact lt_of_le_of_ne ordered different

/-- There is one way to sort declarations whose names are distinct. -/
theorem sorted_eq_of_perm
    {declarations others : List Declaration}
    (rearranged : others.Perm declarations)
    (distinct : (declarations.map Declaration.name).Nodup) :
    sorted others = sorted declarations := by
  have order : (sorted others).Perm (sorted declarations) :=
    ((sorted_perm others).trans rearranged).trans (sorted_perm declarations).symm
  refine order.eq_of_pairwise ?_ (pairwise_sorted others) (pairwise_sorted declarations)
  intro one another listed listedToo below above
  refine List.inj_on_of_nodup_map distinct ?_ ?_ (le_antisymm below above)
  · exact rearranged.subset ((sorted_perm others).subset listed)
  · exact (sorted_perm declarations).subset listedToo

/-! ## One run of a module -/

/-- The declarations of component schemas, in document order. -/
def unsortedDeclarations (catalog : Catalog) (options : Options) : Traced (List Declaration) :=
  Traced.sequence (catalog.declarations.map (schemaDeclaration catalog options))

/-- The declarations in the order for which options ask. -/
def arranged (options : Options) (declarations : List Declaration) : List Declaration :=
  if options.alphabetize then sorted declarations else declarations

theorem arranged_perm (options : Options) (declarations : List Declaration) :
    (arranged options declarations).Perm declarations := by
  unfold arranged
  split
  · exact sorted_perm declarations
  · exact .refl _

theorem result_schemaDeclarations (catalog : Catalog) (options : Options) :
    (schemaDeclarations catalog options).result =
      (unsortedDeclarations catalog options).result.map (arranged options) := by
  unfold schemaDeclarations
  rw [Traced.result_bind]
  change (unsortedDeclarations catalog options).result >>= _ = _
  cases (unsortedDeclarations catalog options).result <;> rfl

theorem result_generateFrom (description : Description) (options : Options) :
    (generateFrom description options).result = do
      let paths ← (pathsDeclaration (.ofDescription description) options).result
      let declarations ← (unsortedDeclarations (.ofDescription description) options).result
      return moduleText options.header (paths.toList ++ arranged options declarations) := by
  unfold generateFrom generate
  simp only [Traced.result_bind, result_schemaDeclarations]
  change (pathsDeclaration (.ofDescription description) options).result >>= _ = _
  congr 1
  funext paths
  cases (unsortedDeclarations (.ofDescription description) options).result <;> rfl

/-- A catalog matches itself. -/
theorem catalog_matches_self (detail : Detail) (catalog : Catalog) :
    catalog.Matches detail catalog where
  component pointer := by
    apply optionRel_self
    intro component _
    apply OrReference.Matches.refl
    intro target
    cases target with
    | schema schema => exact .schema (.refl detail schema)
    | response response => exact .response (.refl detail response)
    | parameter parameter => exact .parameter (.refl detail parameter)
    | requestBody body => exact .requestBody (.refl detail body)
  available _ := rfl
  declared _ := rfl

/-- The declaration of all paths does not depend on whether declarations are sorted. -/
theorem pathsDeclaration_of_fit
    {options other : Options}
    (fit : OptionsFit .annotated options other)
    (catalog : Catalog) :
    pathsDeclaration catalog other = pathsDeclaration catalog options := by
  apply pathsDeclaration_of_matches (catalog_matches_self .annotated catalog) fit
  exact forall₂_named_self fun entry _ => .refl .annotated entry.2

/-- The declarations of component schemas do not depend on whether they are sorted later. -/
theorem unsortedDeclarations_of_fit
    {options other : Options}
    (fit : OptionsFit .annotated options other)
    (catalog : Catalog) :
    unsortedDeclarations catalog other = unsortedDeclarations catalog options := by
  unfold unsortedDeclarations
  congr 2
  funext ⟨pointer, name, node⟩
  exact schemaDeclaration_of_matches (catalog_matches_self .annotated catalog) fit pointer name
    (.refl .annotated node)

theorem nodup_names_of_unsorted
    {description : Description}
    (distinct : (Entries.keys description.components.schemas).Nodup)
    {options : Options}
    {declarations : List Declaration}
    (finished :
      (unsortedDeclarations (.ofDescription description) options).result = .ok declarations) :
    (declarations.map Declaration.name).Nodup := by
  have inOrder : (schemaDeclarations (.ofDescription description) options).result =
      .ok (arranged options declarations) := by
    rw [result_schemaDeclarations, finished]
    rfl
  have names := perm_name_schemaDeclarations inOrder
  rw [Catalog.map_name_declarations distinct] at names
  have same := ((arranged_perm options declarations).map Declaration.name).symm.trans names
  exact same.nodup_iff.mpr (Catalog.nodup_names description)

/-! ## Component schemas in another order -/

/-- Two descriptions differ only in the order of their component schemas. -/
structure Rearranged (description other : Description) : Prop where
  paths : other.paths = description.paths
  components :
    other.components = { description.components with schemas := other.components.schemas }
  schemas : other.components.schemas.Perm description.components.schemas

/-- The sanitized names of the component schemas of a description. -/
def wantedNames (description : Description) : List String :=
  (Entries.keys description.components.schemas).map declarableName

/-- No name of a component schema has to be numbered. -/
structure Unnumbered (description : Description) : Prop where
  distinct : (wantedNames description).Nodup
  apart : description.paths ≠ [] → pathsName ∉ wantedNames description

theorem names_of_unnumbered {description : Description} (plain : Unnumbered description) :
    (Catalog.ofDescription description).names =
      (Entries.keys description.components.schemas).map fun name => (name, declarableName name) := by
  apply assignNames_of_nodup plain.distinct
  intro name listed
  have wanted : declarableName name ∈ wantedNames description := List.mem_map_of_mem listed
  by_cases none : description.paths.isEmpty = true
  · rw [if_pos none]
    exact List.not_mem_nil
  · rw [if_neg none, List.mem_singleton]
    rintro taken
    exact plain.apart (by simpa using none) (taken ▸ wanted)

section Rearranged

variable {description other : Description} (rearranged : Rearranged description other)

include rearranged

theorem perm_entries_of_rearranged (ofSection : Section) :
    ((Catalog.ofDescription other).entries ofSection).Perm
      ((Catalog.ofDescription description).entries ofSection) := by
  unfold Catalog.entries Catalog.ofDescription
  dsimp only
  cases ofSection with
  | schemas => exact rearranged.schemas.map _
  | responses | parameters | requestBodies => rw [rearranged.components]

variable (plain : Unnumbered description)

include plain

theorem unnumbered_of_rearranged : Unnumbered other where
  distinct := by
    refine List.Perm.nodup_iff ?_ |>.mpr plain.distinct
    exact (rearranged.schemas.map Prod.fst).map declarableName
  apart present listed := by
    refine plain.apart (rearranged.paths ▸ present) ?_
    exact ((rearranged.schemas.map Prod.fst).map declarableName).subset listed

theorem lookup_names_of_rearranged (key : String) :
    (Catalog.ofDescription other).names.lookup key =
      (Catalog.ofDescription description).names.lookup key := by
  rw [names_of_unnumbered plain, names_of_unnumbered (unnumbered_of_rearranged rearranged plain)]
  apply lookup_eq_of_perm
  · exact (rearranged.schemas.map Prod.fst).map _
  · have keys : Entries.keys ((Entries.keys description.components.schemas).map
        fun name => (name, declarableName name)) = Entries.keys description.components.schemas := by
      simp [Entries.keys]
    rw [keys]
    exact plain.distinct.of_map

/-- The order of component schemas matters for no lookup. -/
theorem get?_of_rearranged (pointer : Pointer) :
    (Catalog.ofDescription other).get? pointer =
      (Catalog.ofDescription description).get? pointer := by
  obtain ⟨ofSection, name⟩ := pointer
  cases ofSection with
  | schemas =>
      apply lookup_eq_of_perm (perm_entries_of_rearranged rearranged .schemas)
      rw [Catalog.keys_schemas]
      exact plain.distinct.of_map
  | responses | parameters | requestBodies =>
      unfold Catalog.get? Catalog.entries Catalog.ofDescription
      dsimp only
      rw [rearranged.components]

theorem catalog_of_rearranged :
    (Catalog.ofDescription description).Matches .annotated (Catalog.ofDescription other) where
  component pointer := by
    rw [get?_of_rearranged rearranged plain]
    exact (catalog_matches_self .annotated _).component pointer
  available ofSection :=
    mergeSort_eq_of_perm ((perm_entries_of_rearranged rearranged ofSection).map Prod.fst)
  declared pointer := by
    unfold Catalog.declaredName?
    rw [lookup_names_of_rearranged rearranged plain]

theorem perm_declarations_of_rearranged :
    (Catalog.ofDescription other).declarations.Perm
      (Catalog.ofDescription description).declarations := by
  unfold Catalog.declarations
  simp only [lookup_names_of_rearranged rearranged plain]
  exact rearranged.schemas.map _

/-- The same declarations are found in another order. -/
theorem exists_unsorted_of_rearranged
    {options : Options}
    {declarations : List Declaration}
    (finished :
      (unsortedDeclarations (.ofDescription description) options).result = .ok declarations) :
    ∃ others, (unsortedDeclarations (.ofDescription other) options).result = .ok others ∧
      others.Perm declarations := by
  have step (entry : Pointer × String × Node) :
      schemaDeclaration (.ofDescription other) options entry =
        schemaDeclaration (.ofDescription description) options entry :=
    schemaDeclaration_of_matches (catalog_of_rearranged rearranged plain) ⟨rfl, nofun⟩ _ _
      (.refl .annotated entry.2.2)
  obtain ⟨others, each, order⟩ := List.perm_comp_forall₂
    (perm_declarations_of_rearranged rearranged plain) (Traced.forall₂_of_sequence finished)
  refine ⟨others, ?_, order⟩
  unfold unsortedDeclarations
  rw [funext step]
  exact Traced.sequence_of_forall₂ each

theorem pathsDeclaration_of_rearranged (options : Options) :
    pathsDeclaration (.ofDescription other) options =
      pathsDeclaration (.ofDescription description) options := by
  apply pathsDeclaration_of_matches (catalog_of_rearranged rearranged plain) ⟨rfl, nofun⟩
  change List.Forall₂ _ description.paths other.paths
  rw [rearranged.paths]
  exact forall₂_named_self fun entry _ => .refl .annotated entry.2

end Rearranged

/-- Alphabetical order is canonical. Whether declarations are sorted matters neither for
success nor for the error. The declarations of schemas are the same ones then, with strictly
increasing names, and that of all paths comes first as before. The sorted module does not
depend on the order of the component schemas if their sanitized names are distinct, and
different from the name of the declaration of all paths if there is one. -/
theorem alphabetical_order_canonical (options : Options) :
    (∀ description : Description, (Entries.keys description.components.schemas).Nodup →
      (∀ interruption,
        (generateFrom description { options with alphabetize := true }).result =
            .error interruption ↔
          (generateFrom description { options with alphabetize := false }).result =
            .error interruption) ∧
      ∀ text, (generateFrom description { options with alphabetize := false }).result = .ok text →
        ∃ paths declarations inOrder,
          (∀ alphabetize, (pathsDeclaration (.ofDescription description)
            { options with alphabetize := alphabetize }).result = .ok paths) ∧
          (∀ declaration ∈ paths, declaration.name = pathsName) ∧
          (schemaDeclarations (.ofDescription description)
            { options with alphabetize := false }).result = .ok declarations ∧
          (schemaDeclarations (.ofDescription description)
            { options with alphabetize := true }).result = .ok inOrder ∧
          inOrder.Perm declarations ∧
          (inOrder.map Declaration.name).Pairwise (· < ·) ∧
          text = moduleText options.header (paths.toList ++ declarations) ∧
          (generateFrom description { options with alphabetize := true }).result =
            .ok (moduleText options.header (paths.toList ++ inOrder))) ∧
    ∀ description other : Description, Rearranged description other → Unnumbered description →
      ∀ text, (generateFrom description { options with alphabetize := true }).result = .ok text →
        (generateFrom other { options with alphabetize := true }).result = .ok text := by
  refine ⟨?_, ?_⟩
  · intro description distinct
    have fit : OptionsFit .annotated { options with alphabetize := false }
        { options with alphabetize := true } := ⟨rfl, nofun⟩
    have samePaths := pathsDeclaration_of_fit fit (.ofDescription description)
    have sameUnsorted := unsortedDeclarations_of_fit fit (.ofDescription description)
    rw [result_generateFrom, result_generateFrom, samePaths, sameUnsorted]
    cases ofPaths : (pathsDeclaration (.ofDescription description)
        { options with alphabetize := false }).result with
    | error interruption => exact ⟨fun _ => .rfl, nofun⟩
    | ok paths =>
        cases unsorted : (unsortedDeclarations (.ofDescription description)
            { options with alphabetize := false }).result with
        | error interruption => exact ⟨fun _ => .rfl, nofun⟩
        | ok declarations =>
            refine ⟨fun _ => iff_of_false nofun nofun, ?_⟩
            rintro _ ⟨⟩
            refine ⟨paths, declarations, sorted declarations, ?_,
              (pathsDeclaration_cases ofPaths).2, ?_, ?_, sorted_perm declarations,
              pairwise_lt_sorted (nodup_names_of_unsorted distinct unsorted), rfl, rfl⟩
            · rintro (_ | _)
              · exact ofPaths
              · rw [samePaths, ofPaths]
            · rw [result_schemaDeclarations, unsorted]
              rfl
            · rw [result_schemaDeclarations, sameUnsorted, unsorted]
              rfl
  · intro description other rearranged plain text finished
    rw [result_generateFrom] at finished ⊢
    obtain ⟨paths, ofPaths, finished⟩ := exists_of_bind_eq_ok finished
    obtain ⟨declarations, unsorted, finished⟩ := exists_of_bind_eq_ok finished
    obtain ⟨others, unsortedToo, order⟩ := exists_unsorted_of_rearranged rearranged plain unsorted
    have distinct := nodup_names_of_unsorted plain.distinct.of_map unsorted
    have same : arranged { options with alphabetize := true } others =
        arranged { options with alphabetize := true } declarations :=
      sorted_eq_of_perm order distinct
    rw [pathsDeclaration_of_rearranged rearranged plain, ofPaths, unsortedToo]
    change Except.ok (moduleText _ (_ ++ arranged _ others)) = _
    rw [same]
    exact finished

/-- Two schemas in either order, and a path. -/
theorem alphabetical_order_canonical_of_two :
    let second : String × Node := ("B", .inline { types := ["string"] })
    let first : String × Node := ("A", .inline { types := ["integer", "null"] })
    let description : Description :=
      { paths := [("/", {})], components := { schemas := [second, first] } }
    let other : Description :=
      { paths := [("/", {})], components := { schemas := [first, second] } }
    let text := "export interface paths \x7b\n  \"/\": Record<string, never>;\n\x7d\n\n" ++
      "export type A = number | null;\n\nexport type B = string;\n"
    (∀ interruption,
        (generateFrom description { header := false }).result ≠ .error interruption) ∧
      (generateFrom description { header := false, alphabetize := true }).result = .ok text ∧
      (generateFrom other { header := false, alphabetize := true }).result = .ok text := by
  intro second first description other text
  have inOrder : (generateFrom description { header := false, alphabetize := true }).result =
      .ok text := by cbv
  have names : wantedNames description = ["B", "A"] := by cbv
  have plain : Unnumbered description := by
    refine ⟨?_, fun _ => ?_⟩ <;> rw [names] <;> decide
  obtain ⟨unchanged, canonical⟩ := alphabetical_order_canonical { header := false }
  refine ⟨?_, inOrder, canonical description other ⟨rfl, rfl, .swap _ _ _⟩ plain text inOrder⟩
  intro interruption failed
  have failedToo := ((unchanged description (by decide)).1 interruption).mpr failed
  rw [inOrder] at failedToo
  cases failedToo

end Typing
end ApiTypings
