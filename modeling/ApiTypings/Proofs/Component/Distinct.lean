import ApiTypings.Proofs.Component.Naming
import ApiTypings.Proofs.Component.Pointers

/-!
# Names are distinct

A name that is taken is followed by the least number that makes it new. There is one,
because as many names are taken as the list of taken names is long. So the names that
are assigned one after the other are distinct, and names that follow change none of
them.
-/

namespace ApiTypings
namespace Component

/-! ## The least number -/

theorem numbered_injective (wanted : String) :
    Function.Injective fun number : Nat => wanted ++ toString number := by
  intro one another same
  have texts := congrArg String.toList same
  simp only [String.toList_append, List.append_cancel_left_eq, Nat.toString_eq_ofList_toDigits,
    String.toList_ofList] at texts
  rw [← Nat.ofDigitChars_ten_toDigits (n := one), texts, Nat.ofDigitChars_ten_toDigits]

/-- Among as many numbers as there are taken names, and one more, one is free. -/
theorem exists_free (taken : List String) (wanted : String) :
    ∃ number ≤ taken.length, wanted ++ toString (number + 1) ∉ taken := by
  by_contra none
  push Not at none
  let numbered := (List.range (taken.length + 1)).map fun number => wanted ++ toString (number + 1)
  have distinct : numbered.Nodup := by
    refine List.nodup_range.map ?_
    intro one another same
    exact Nat.succ_injective (numbered_injective wanted same)
  have within : numbered ⊆ taken := by
    intro name listed
    obtain ⟨number, small, rfl⟩ := List.mem_map.mp listed
    exact none number (Nat.lt_succ_iff.mp (List.mem_range.mp small))
  have bound := (List.subperm_of_subset distinct within).length_le
  simp [numbered] at bound

/-- A taken name gets the least number from one on that makes it new. -/
theorem freshName_isLeast {taken : List String} {wanted : String} (known : wanted ∈ taken) :
    ∃ number, IsLeast {number | 0 < number ∧ wanted ++ toString number ∉ taken} number ∧
      freshName taken wanted = wanted ++ toString number := by
  obtain ⟨free, small, unused⟩ := exists_free taken wanted
  let isFree := (fun name => !taken.contains name) ∘ fun number => wanted ++ toString (number + 1)
  have isFree_iff (number : Nat) :
      isFree number = true ↔ wanted ++ toString (number + 1) ∉ taken := by
    simp only [isFree, Function.comp_apply, Bool.not_eq_true', ← Bool.not_eq_true,
      List.contains_iff_mem]
  have chosen : freshName taken wanted =
      (((List.range (taken.length + 1)).find? isFree).map fun number =>
        wanted ++ toString (number + 1)).getD wanted := by
    rw [freshName, if_pos (List.contains_iff_mem.mpr known)]
    dsimp only
    rw [List.find?_map]
  cases found : (List.range (taken.length + 1)).find? isFree with
  | none =>
      have used := List.find?_eq_none.mp found free (List.mem_range.mpr (Nat.lt_succ_iff.mpr small))
      exact absurd ((isFree_iff free).mpr unused) used
  | some number =>
      obtain ⟨new, _, before⟩ := List.find?_range_eq_some.mp found
      rw [found] at chosen
      refine ⟨number + 1, ⟨⟨Nat.succ_pos number, (isFree_iff number).mp new⟩, ?_⟩, chosen⟩
      rintro other ⟨positive, unusedOther⟩
      by_contra smaller
      obtain ⟨earlier, rfl⟩ := Nat.exists_eq_succ_of_ne_zero positive.ne'
      have used := before earlier (by omega)
      rw [(isFree_iff earlier).mpr unusedOther] at used
      contradiction

theorem freshName_of_not_mem {taken : List String} {wanted : String} (free : wanted ∉ taken) :
    freshName taken wanted = wanted := by
  simp [freshName, free]

theorem freshName_not_mem (taken : List String) (wanted : String) :
    freshName taken wanted ∉ taken := by
  by_cases known : wanted ∈ taken
  · obtain ⟨number, least, same⟩ := freshName_isLeast known
    rw [same]
    exact least.1.2
  · rw [freshName_of_not_mem known]
    exact known

/-! ## Names one after the other -/

theorem map_fst_assignNames (taken names : List String) :
    (assignNames taken names).map Prod.fst = names := by
  induction names generalizing taken with
  | nil => rfl
  | cons name rest hypothesis =>
      unfold assignNames
      rw [List.map_cons, hypothesis]

/-- Assigned names are distinct, and none of them was taken. -/
theorem nodup_assignNames (taken names : List String) :
    ((assignNames taken names).map Prod.snd).Nodup ∧
      ∀ name ∈ (assignNames taken names).map Prod.snd, name ∉ taken := by
  induction names generalizing taken with
  | nil => exact ⟨List.nodup_nil, by simp [assignNames]⟩
  | cons name rest hypothesis =>
      obtain ⟨distinct, fresh⟩ := hypothesis (freshName taken (TypeScript.declarableName name) :: taken)
      unfold assignNames
      rw [List.map_cons]
      constructor
      · refine List.nodup_cons.mpr ⟨?_, distinct⟩
        intro again
        exact fresh _ again List.mem_cons_self
      · intro other listed
        rcases List.mem_cons.mp listed with rfl | later
        · exact freshName_not_mem taken _
        · intro known
          exact fresh other later (List.mem_cons_of_mem _ known)

/-- What follows does not change the names that are assigned before. -/
theorem assignNames_prefix (taken names more : List String) :
    assignNames taken names <+: assignNames taken (names ++ more) := by
  induction names generalizing taken with
  | nil => exact List.nil_prefix
  | cons name rest hypothesis =>
      unfold assignNames
      exact List.prefix_cons_inj _ |>.mpr (hypothesis _)

/-- Names that are distinct when they are sanitized, and not taken, get no numbers. -/
theorem assignNames_of_nodup
    {taken names : List String}
    (distinct : (names.map TypeScript.declarableName).Nodup)
    (free : ∀ name ∈ names, TypeScript.declarableName name ∉ taken) :
    assignNames taken names = names.map fun name => (name, TypeScript.declarableName name) := by
  induction names generalizing taken with
  | nil => rfl
  | cons name rest hypothesis =>
      obtain ⟨freeHere, freeLater⟩ := List.forall_mem_cons.mp free
      rw [List.map_cons, List.nodup_cons] at distinct
      unfold assignNames
      rw [freshName_of_not_mem freeHere, List.map_cons]
      dsimp only
      congr 1
      apply hypothesis distinct.2
      intro later listed
      rw [List.mem_cons, not_or]
      refine ⟨?_, freeLater later listed⟩
      intro same
      exact distinct.1 (same ▸ List.mem_map_of_mem listed)

/-! ## The table of names -/

theorem lookup_eq_some_of_mem
    {α : Type}
    {table : List (String × α)}
    (distinct : (table.map Prod.fst).Nodup)
    {key : String}
    {value : α}
    (listed : (key, value) ∈ table) :
    table.lookup key = some value := by
  induction table with
  | nil => contradiction
  | cons entry rest hypothesis =>
      rw [List.map_cons, List.nodup_cons] at distinct
      rcases List.mem_cons.mp listed with rfl | later
      · exact List.lookup_cons_self
      · have other : key ≠ entry.1 := by
          rintro rfl
          exact distinct.1 (List.mem_map.mpr ⟨_, later, rfl⟩)
        rw [List.lookup_cons, beq_eq_false_iff_ne.mpr other]
        exact hypothesis distinct.2 later

namespace Catalog

variable {description : Document.Description}

theorem map_fst_names (description : Document.Description) :
    (Catalog.ofDescription description).names.map Prod.fst =
      Entries.keys description.components.schemas :=
  map_fst_assignNames _ _

theorem nodup_names (description : Document.Description) :
    ((Catalog.ofDescription description).names.map Prod.snd).Nodup :=
  (nodup_assignNames _ _).1

/-- The name of the declaration of all paths is not given to a schema. -/
theorem pathsName_not_mem_names (some : description.paths ≠ []) :
    pathsName ∉ (Catalog.ofDescription description).names.map Prod.snd := by
  intro given
  refine (nodup_assignNames _ _).2 _ given ?_
  rw [if_neg (by simpa using some)]
  exact List.mem_singleton_self _

/-- Where component names are distinct, schemas are declared by the names of the
table. -/
theorem map_name_declarations
    (distinct : (Entries.keys description.components.schemas).Nodup) :
    (Catalog.ofDescription description).declarations.map (fun entry => entry.2.1) =
      (Catalog.ofDescription description).names.map Prod.snd := by
  have keys := map_fst_names description
  let named := fun key => ((Catalog.ofDescription description).names.lookup key).getD key
  have declared : (Catalog.ofDescription description).declarations.map (fun entry => entry.2.1) =
      (Entries.keys description.components.schemas).map named := by
    simp only [declarations, Entries.keys, List.map_map]
    rfl
  rw [declared, ← keys, List.map_map]
  refine List.map_congr_left ?_
  intro entry listed
  have found := lookup_eq_some_of_mem (keys ▸ distinct) listed
  simp only [Function.comp_apply, named, found, Option.getD_some]

/-- Schemas that are appended change no name. -/
theorem lookup_names_of_append
    {extended : Document.Description}
    {more : List String}
    (appended : Entries.keys extended.components.schemas =
      Entries.keys description.components.schemas ++ more)
    (paths : extended.paths.isEmpty = description.paths.isEmpty)
    {key : String}
    (listed : key ∈ Entries.keys description.components.schemas) :
    ∃ name, (Catalog.ofDescription description).names.lookup key = some name ∧
      (Catalog.ofDescription extended).names.lookup key = some name := by
  let taken := if description.paths.isEmpty then [] else [pathsName]
  obtain ⟨name, found⟩ := exists_lookup_assignNames listed taken
  obtain ⟨behind, whole⟩ := assignNames_prefix taken (Entries.keys description.components.schemas) more
  refine ⟨name, found, ?_⟩
  have names : (Catalog.ofDescription extended).names =
      assignNames taken (Entries.keys description.components.schemas) ++ behind := by
    rw [whole, ← appended]
    simp only [Catalog.ofDescription, paths, taken]
  rw [names, List.lookup_append, found]
  rfl

end Catalog

end Component
end ApiTypings
