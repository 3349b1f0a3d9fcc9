import ApiTypings.Proofs.Component.Chains
import ApiTypings.Proofs.Entries
import ApiTypings.Proofs.Typing.FaithfulPaths

/-!
# The parameters of an operation

Of the parameters of a path and of its operation the last one with a place and a name counts,
where the first one stands. Its member is found at its place, and places without parameters
have none.
-/

namespace ApiTypings
namespace Typing

open Component Document TypeScript

/-! ## Merging -/

/-- What a parameter is known by. -/
abbrev pairOf (parameter : Parameter) : String × String :=
  (parameter.location, parameter.name)

/-- One parameter for every place and name, in order of first appearance: the last one. -/
structure MergedFrom (parameters winners : List Parameter) : Prop where
  pairs : winners.map pairOf = (parameters.map pairOf).eraseDups
  last : ∀ winner ∈ winners,
    (parameters.filter fun parameter => pairOf parameter == pairOf winner).getLast? = some winner

theorem mergedFrom_mergeParameters (parameters : List Parameter) :
    MergedFrom parameters (mergeParameters parameters) := by
  let keyed := fun parameter : Parameter => (pairOf parameter, parameter)
  have merged : mergeParameters parameters =
      (Entries.ofPairs (parameters.map keyed)).map Prod.snd := rfl
  have own : ∀ entry ∈ Entries.ofPairs (parameters.map keyed), pairOf entry.2 = entry.1 := by
    intro entry listed
    obtain ⟨parameter, _, rfl⟩ := List.mem_map.mp (Entries.mem_of_mem_ofPairs listed)
    rfl
  rw [merged]
  constructor
  · have keys := Entries.keys_ofPairs (parameters.map keyed)
    rw [List.map_map] at keys
    rw [List.map_map]
    exact (List.map_congr_left own).trans keys
  · intro winner listed
    obtain ⟨entry, found, rfl⟩ := List.mem_map.mp listed
    have last := Entries.getLast?_of_mem_ofPairs found
    rw [List.filter_map, List.getLast?_map, Option.map_eq_some_iff] at last
    obtain ⟨parameter, final, rfl⟩ := last
    exact final

/-! ## Members -/

/-- The entry of a parameter: it is optional exactly if the parameter is not required. -/
inductive IsEntry (context : Context) (parameter : Parameter) : Member TypeExpr → Prop
  | mk {type : TypeExpr} {comment : List String}
      (typed : (parameterType context parameter).result = .ok type)
      (commented : parameterComment context.options parameter = .ok comment) :
      IsEntry context parameter
        ⟨.quoted parameter.name, type, !parameter.required, false, comment⟩

/-- The group of a place: one entry for every parameter there, and optional exactly if none of
them is required. -/
inductive IsGroup (context : Context) (parameters : List Parameter) (place : Place) :
    Member TypeExpr → Prop
  | mk {entries : List (Member TypeExpr)}
      (each : List.Forall₂ (IsEntry context) (atPlace parameters place) entries) :
      IsGroup context parameters place
        ⟨.word place.key, .object entries, !(atPlace parameters place).any Parameter.required,
          false, []⟩

/-- The member of all parameters: the groups of the places that are used, in order. There is
none exactly if no parameter has a known place. -/
inductive IsParameters (context : Context) (parameters : List Parameter) :
    Option (Member TypeExpr) → Prop
  | none (strays : ∀ parameter ∈ parameters, Place.ofKey? parameter.location = none) :
      IsParameters context parameters none
  | some {groups : List (Member TypeExpr)}
      (placed : ∃ parameter ∈ parameters, Place.ofKey? parameter.location ≠ none)
      (each : List.Forall₂ (IsGroup context parameters) (usedPlaces parameters) groups) :
      IsParameters context parameters (some ⟨.word "parameters", .object groups, false, false, []⟩)

variable {context : Context}

theorem parameterMember_eq_ok_iff {parameter : Parameter} {member : Member TypeExpr} :
    (parameterMember context parameter).result = .ok member ↔
      IsEntry context parameter member := by
  constructor
  · intro finished
    obtain ⟨type, typed, finished⟩ := Traced.exists_of_result_bind finished
    obtain ⟨comment, written, finished⟩ := Traced.exists_of_result_bind finished
    cases Traced.eq_of_result_pure finished
    exact .mk typed (Traced.ofWritten_eq_ok written)
  · rintro ⟨typed, commented⟩
    refine Traced.result_bind_eq_ok_iff.mpr ⟨_, typed, ?_⟩
    rw [commented]
    rfl

theorem placeMember_eq_ok_iff
    {parameters : List Parameter}
    {place : Place}
    {found : Option (Member TypeExpr)} :
    (placeMember context parameters place).result = .ok found ↔
      FoundWhere (fun place => !(atPlace parameters place).isEmpty)
        (IsGroup context parameters) place found := by
  have here :
      parameters.filter (fun parameter => parameter.location == place.key) =
        atPlace parameters place := rfl
  unfold placeMember
  rw [here]
  constructor
  · intro finished
    split at finished
    · rename_i empty
      cases Traced.eq_of_result_pure finished
      exact .none (by simp [empty])
    · rename_i filled
      obtain ⟨entries, listed, finished⟩ := Traced.exists_of_result_bind finished
      cases Traced.eq_of_result_pure finished
      have each := (Traced.forall₂_of_sequence listed).imp
        fun _ _ found => parameterMember_eq_ok_iff.mp found
      exact .some (by simpa using filled) (.mk each)
  · rintro (⟨used, ⟨each⟩⟩ | unused)
    · have listed := Traced.sequence_of_forall₂
        (each.imp fun _ _ entry => parameterMember_eq_ok_iff.mpr entry)
      split
      · rename_i empty
        simp [empty] at used
      · exact Traced.result_bind_eq_ok_iff.mpr ⟨_, listed, rfl⟩
    · have empty : atPlace parameters place = [] := by simpa using unused
      rw [empty]
      rfl

/-- The groups are found place by place. -/
theorem exists_places_iff {parameters : List Parameter} {groups : List (Member TypeExpr)} :
    (∃ places, (Traced.sequence (Place.all.map (placeMember context parameters))).result =
        .ok places ∧ places.filterMap id = groups) ↔
      List.Forall₂ (IsGroup context parameters) (usedPlaces parameters) groups := by
  refine Iff.trans ?_ forall₂_filter_iff.symm
  constructor
  · rintro ⟨places, grouped, kept⟩
    have each := Traced.forall₂_of_sequence grouped
    exact ⟨places, each.imp fun _ _ placed => placeMember_eq_ok_iff.mp placed, kept⟩
  · rintro ⟨places, each, kept⟩
    refine ⟨places, Traced.sequence_of_forall₂ ?_, kept⟩
    exact each.imp fun _ _ placed => placeMember_eq_ok_iff.mpr placed

theorem result_reportStray (parameters : List Parameter) :
    (Traced.sequence (parameters.map reportStray)).result =
      .ok (parameters.map fun _ => ()) := by
  apply Traced.sequence_of_forall₂
  rw [List.forall₂_map_right_iff, List.forall₂_same]
  intro parameter _
  unfold reportStray
  split <;> rfl

theorem parametersMember_eq_ok_iff
    {item : PathItem}
    {operation : Operation}
    {resolved : List Parameter}
    (resolves : List.Forall₂
      (fun node parameter => resolveParameter context node = .ok parameter)
      (item.parameters ++ operation.parameters) resolved)
    {found : Option (Member TypeExpr)} :
    (parametersMember context item operation).result = .ok found ↔
      IsParameters context (mergeParameters resolved) found := by
  have listed : (Traced.sequence ((item.parameters ++ operation.parameters).map fun node =>
      Traced.ofReferred (resolveParameter context node))).result = .ok resolved := by
    refine Traced.sequence_of_forall₂ (resolves.imp ?_)
    intro node parameter found
    rw [found]
    rfl
  constructor
  · intro finished
    obtain ⟨again, listedToo, finished⟩ := Traced.exists_of_result_bind finished
    rw [listed] at listedToo
    cases listedToo
    obtain ⟨_, _, finished⟩ := Traced.exists_of_result_bind finished
    obtain ⟨places, grouped, finished⟩ := Traced.exists_of_result_bind finished
    have each := exists_places_iff.mp ⟨places, grouped, rfl⟩
    have empty := isEmpty_of_forall₂ each
    generalize places.filterMap id = groups at each empty finished
    cases groups with
    | nil =>
        cases Traced.eq_of_result_pure finished
        exact .none ((usedPlaces_eq_nil_iff _).mp (List.isEmpty_iff.mp empty.symm))
    | cons first rest =>
        cases Traced.eq_of_result_pure finished
        exact .some ((usedPlaces_ne_nil_iff _).mp (List.isEmpty_eq_false_iff.mp empty.symm)) each
  · intro described
    refine Traced.result_bind_eq_ok_iff.mpr ⟨_, listed, ?_⟩
    refine Traced.result_bind_eq_ok_iff.mpr ⟨_, result_reportStray _, ?_⟩
    cases described with
    | none strays =>
        have each : List.Forall₂ (IsGroup context (mergeParameters resolved))
            (usedPlaces (mergeParameters resolved)) [] := by
          rw [(usedPlaces_eq_nil_iff _).mpr strays]
          exact .nil
        obtain ⟨places, grouped, kept⟩ := exists_places_iff.mpr each
        refine Traced.result_bind_eq_ok_iff.mpr ⟨places, grouped, ?_⟩
        rw [kept]
        rfl
    | @some groups placed each =>
        obtain ⟨places, grouped, rfl⟩ := exists_places_iff.mpr each
        refine Traced.result_bind_eq_ok_iff.mpr ⟨places, grouped, ?_⟩
        have filled : places.filterMap id ≠ [] := by
          rw [← List.isEmpty_eq_false_iff, isEmpty_of_forall₂ each, List.isEmpty_eq_false_iff,
            usedPlaces_ne_nil_iff]
          exact placed
        split
        · contradiction
        · rfl

/-! ## The parameters of a path and its operation -/

/-- Where all parameters of a path and of its operation are resolved, the last one of every
place and name decides on the entry, wherever it comes from. -/
theorem parametersMember_merges
    (context : Context)
    (item : PathItem)
    (operation : Operation)
    {resolved : List Parameter}
    (resolves : List.Forall₂
      (fun node parameter => resolveParameter context node = .ok parameter)
      (item.parameters ++ operation.parameters) resolved) :
    ∃ winners, MergedFrom resolved winners ∧
      ∀ found, (parametersMember context item operation).result = .ok found ↔
        IsParameters context winners found :=
  ⟨mergeParameters resolved, mergedFrom_mergeParameters resolved,
    fun _ => parametersMember_eq_ok_iff resolves⟩

theorem parametersMember_merges_reference :
    let shared : Parameter := { name := "limit", location := "query", required := true }
    let own : Parameter := { name := "limit", location := "query" }
    let context : Context :=
      ⟨.ofDescription { components := { parameters := [("Limit", .inline shared)] } }, {}, none⟩
    let item : PathItem := { parameters := [.reference ⟨"#/components/parameters/Limit", none⟩] }
    let operation : Operation := { parameters := [.inline own] }
    ∃ winners, MergedFrom [shared, own] winners ∧
      ∀ found, (parametersMember context item operation).result = .ok found ↔
        IsParameters context winners found := by
  intro shared own context item operation
  have resolved : context.catalog.resolve "#/components/parameters/Limit" none =
      .ok (⟨.parameters, "Limit"⟩, .inline (.parameter shared)) :=
    Catalog.resolve_eq_ok_iff.mpr ⟨by cbv, rfl⟩
  have followed : context.catalog.follow none [] "#/components/parameters/Limit" =
      .ok (⟨.parameters, "Limit"⟩, .parameter shared) := by
    rw [Catalog.follow_of_not_mem (by decide), resolved]
  have found : resolveParameter context
      (.reference ⟨"#/components/parameters/Limit", none⟩) = .ok shared := by
    simp only [resolveParameter, resolveAs, context, followed]
  exact parametersMember_merges context item operation (.cons found (.cons rfl .nil))

end Typing
end ApiTypings
