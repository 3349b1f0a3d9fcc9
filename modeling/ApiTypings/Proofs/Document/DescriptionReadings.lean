import ApiTypings.Proofs.Document.Readings

/-!
# Readings of descriptions

Documents in normal form that resemble each other are read as descriptions that match.
-/

namespace ApiTypings
namespace Document

section Objects

variable {detail : Detail} {item : Shape} {entries others : List (String × Value)} {key : String}

theorem forall₂_mappingAt
    (related : Option.Rel
      (fun value other => value = .null ∧ other = .null ∨ Paired detail (.map item) value other)
      (entries.lookup key) (others.lookup key)) :
    List.Forall₂ (Named (Paired detail item)) (mappingAt entries key) (mappingAt others key) := by
  unfold mappingAt
  generalize entries.lookup key = value at related
  generalize others.lookup key = other at related
  cases related with
  | none => exact .nil
  | some both =>
      rcases both with ⟨rfl, rfl⟩ | paired
      · exact .nil
      · obtain ⟨left, right, rfl, rfl, each⟩ := paired.map
        exact each

theorem forall₂_itemsAt
    (related : Option.Rel (Paired detail (.optional (.list item)))
      (entries.lookup key) (others.lookup key)) :
    List.Forall₂ (Paired detail item) (itemsAt entries key) (itemsAt others key) := by
  unfold itemsAt
  generalize entries.lookup key = value at related
  generalize others.lookup key = other at related
  cases related with
  | none => exact .nil
  | some both =>
      rcases both.optional with ⟨rfl, rfl⟩ | paired
      · exact .nil
      · obtain ⟨left, right, rfl, rfl, each⟩ := paired.list
        exact each

/-- References and objects that are paired match, if the objects do. -/
theorem matches_ofValue
    {α : Type}
    {model : Model}
    {read : List (String × Value) → α}
    {Related : α → α → Prop}
    (object : ∀ entries others,
      Paired detail (.model model) (.mapping entries) (.mapping others) →
      Related (read entries) (read others))
    {value other : Value}
    (paired : Paired detail (.orReference model) value other) :
    OrReference.Matches detail Related (.ofValue read value) (.ofValue read other) := by
  obtain ⟨left, right, rfl, rfl, both⟩ := paired.orReference
  unfold OrReference.ofValue
  dsimp only [Value.mapping?, Option.getD_some]
  rw [← isReference_eq, ← isReference_eq]
  rcases both with ⟨refers, refersToo, paired⟩ | ⟨inline, inlineToo, paired⟩
  · rw [if_pos refers, if_pos refersToo]
    exact matches_reference paired
  · rw [inline, inlineToo, if_neg Bool.false_ne_true, if_neg Bool.false_ne_true]
    exact .inline (object left right paired)

theorem matches_content
    (each : List.Forall₂ (Named (Paired detail (.model .mediaType)))
      (mappingAt entries "content") (mappingAt others "content")) :
    Content.Matches detail (Content.ofEntries entries) (Content.ofEntries others) := by
  refine forall₂_readMap ?_ each
  rintro value other - paired
  obtain ⟨left, rfl⟩ := paired.normal.exists_entries
  obtain ⟨right, rfl⟩ := paired.normalToo.exists_entries
  exact ⟨matches_at (readAlike detail _) (paired.readAt "schema" rfl rfl)⟩

theorem matches_parameter
    (entries others : List (String × Value))
    (paired : Paired detail (.model .parameter) (.mapping entries) (.mapping others)) :
    Parameter.Matches detail (Parameter.ofEntries entries) (Parameter.ofEntries others) where
  name := by
    simp only [Parameter.ofEntries, textAt, paired.sameAt "name" rfl rfl]
  location := by
    simp only [Parameter.ofEntries, textAt, paired.sameAt "in" rfl rfl]
  required := by
    simp only [Parameter.ofEntries, flagAt, paired.sameAt "required" rfl rfl]
  remark annotated := by
    simp only [Parameter.ofEntries, textAt, flagAt,
      paired.remarkAt annotated "description" rfl rfl,
      paired.remarkAt annotated "deprecated" rfl rfl, and_self]
  schema := matches_at (readAlike detail _) (paired.readAt "schema" rfl rfl)
  content := matches_content (forall₂_mappingAt
    (optionRel_mono (paired.readAt "content" rfl rfl) fun _ _ both => both.optional))

theorem matches_requestBody
    (entries others : List (String × Value))
    (paired : Paired detail (.model .requestBody) (.mapping entries) (.mapping others)) :
    RequestBody.Matches detail (RequestBody.ofEntries entries) (RequestBody.ofEntries others) where
  required := by
    simp only [RequestBody.ofEntries, flagAt, paired.sameAt "required" rfl rfl]
  remark annotated := by
    simp only [RequestBody.ofEntries, textAt, paired.remarkAt annotated "description" rfl rfl]
  content := matches_content (forall₂_mappingAt
    (optionRel_mono (paired.readAt "content" rfl rfl) fun _ _ => Or.inr))

theorem matches_response
    (entries others : List (String × Value))
    (paired : Paired detail (.model .response) (.mapping entries) (.mapping others)) :
    Response.Matches detail (Response.ofEntries entries) (Response.ofEntries others) where
  remark annotated := by
    simp only [Response.ofEntries, textAt, paired.remarkAt annotated "description" rfl rfl]
  content := matches_content (forall₂_mappingAt
    (optionRel_mono (paired.readAt "content" rfl rfl) fun _ _ both => both.optional))

theorem matches_parameters
    (related : Option.Rel (Paired detail (.optional (.list (.orReference .parameter))))
      (entries.lookup "parameters") (others.lookup "parameters")) :
    List.Forall₂ (OrReference.Matches detail (Parameter.Matches detail))
      ((itemsAt entries "parameters").map (.ofValue Parameter.ofEntries))
      ((itemsAt others "parameters").map (.ofValue Parameter.ofEntries)) := by
  rw [List.forall₂_map_left_iff, List.forall₂_map_right_iff]
  refine (forall₂_itemsAt related).imp ?_
  intro value other paired
  exact matches_ofValue matches_parameter paired

theorem matches_operation
    (paired : Paired detail (.model .operation) (.mapping entries) (.mapping others)) :
    Operation.Matches detail (Operation.ofEntries entries) (Operation.ofEntries others) where
  remark annotated := by
    simp only [Operation.ofEntries, textAt, flagAt,
      paired.remarkAt annotated "summary" rfl rfl,
      paired.remarkAt annotated "description" rfl rfl,
      paired.remarkAt annotated "operationId" rfl rfl,
      paired.remarkAt annotated "deprecated" rfl rfl, and_self]
  parameters := matches_parameters (paired.readAt "parameters" rfl rfl)
  requestBody := by
    have related := paired.readAt "requestBody" rfl rfl
    unfold Operation.ofEntries
    dsimp only
    generalize entries.lookup "requestBody" = value at related
    generalize others.lookup "requestBody" = other at related
    cases related with
    | none => exact .none
    | some both =>
        rcases both.optional with ⟨rfl, rfl⟩ | paired
        · exact .none
        · have same := matches_ofValue matches_requestBody paired
          obtain ⟨left, right, rfl, rfl, _⟩ := paired.orReference
          exact .some same
  responses := forall₂_readMap (fun _ _ _ => matches_ofValue matches_response)
    (forall₂_mappingAt (optionRel_mono (paired.readAt "responses" rfl rfl) fun _ _ => Or.inr))

theorem matches_pathItem
    (paired : Paired detail (.model .pathItem) (.mapping entries) (.mapping others)) :
    PathItem.Matches detail (PathItem.ofEntries entries) (PathItem.ofEntries others) where
  operations := by
    unfold PathItem.ofEntries
    dsimp only
    apply forall₂_filterMap
    intro method _
    have related : Option.Rel (Paired detail (.optional (.model .operation)))
        (entries.lookup method.key) (others.lookup method.key) := by
      cases method <;> exact paired.readAt _ rfl rfl
    generalize entries.lookup method.key = value at related
    generalize others.lookup method.key = other at related
    cases related with
    | none => exact .none
    | some both =>
        rcases both.optional with ⟨rfl, rfl⟩ | paired
        · exact .none
        · obtain ⟨left, rfl⟩ := paired.normal.exists_entries
          obtain ⟨right, rfl⟩ := paired.normalToo.exists_entries
          exact .some (.mk method (matches_operation paired))
  parameters := matches_parameters (paired.readAt "parameters" rfl rfl)

theorem matches_components
    (paired : Paired detail (.model .components) (.mapping entries) (.mapping others)) :
    Components.Matches detail (Components.ofEntries entries) (Components.ofEntries others) where
  schemas := forall₂_getD (matches_mapAt (readAlike detail _) (paired.readAt "schemas" rfl rfl))
  responses := forall₂_readMap (fun _ _ _ => matches_ofValue matches_response)
    (forall₂_mappingAt
      (optionRel_mono (paired.readAt "responses" rfl rfl) fun _ _ both => both.optional))
  parameters := forall₂_readMap (fun _ _ _ => matches_ofValue matches_parameter)
    (forall₂_mappingAt
      (optionRel_mono (paired.readAt "parameters" rfl rfl) fun _ _ both => both.optional))
  requestBodies := forall₂_readMap (fun _ _ _ => matches_ofValue matches_requestBody)
    (forall₂_mappingAt
      (optionRel_mono (paired.readAt "requestBodies" rfl rfl) fun _ _ both => both.optional))

theorem matches_components_nil :
    Components.Matches detail (Components.ofEntries []) (Components.ofEntries []) where
  schemas := by
    simp only [Components.ofEntries, Node.mapAt_eq]
    exact .nil
  responses := .nil
  parameters := .nil
  requestBodies := .nil

end Objects

/-- Documents in normal form that resemble each other are read as descriptions that match. -/
theorem matches_description
    {detail : Detail}
    {document other : Value}
    (paired : Paired detail (.model .document) document other) :
    Description.Matches detail (Description.ofValue document) (Description.ofValue other) := by
  obtain ⟨entries, rfl⟩ := paired.normal.exists_entries
  obtain ⟨others, rfl⟩ := paired.normalToo.exists_entries
  unfold Description.ofValue Description.ofEntries
  dsimp only [Value.mapping?, Option.getD_some]
  refine ⟨?_, ?_⟩
  · dsimp only
    refine forall₂_readMap ?_ (forall₂_mappingAt
      (optionRel_mono (paired.readAt "paths" rfl rfl) fun _ _ both => .inr both.extensibleMap))
    rintro value other - paired
    obtain ⟨left, rfl⟩ := paired.normal.exists_entries
    obtain ⟨right, rfl⟩ := paired.normalToo.exists_entries
    exact matches_pathItem paired
  · have related := paired.readAt "components" rfl rfl
    unfold mappingAt
    dsimp only
    generalize entries.lookup "components" = value at related
    generalize others.lookup "components" = other at related
    cases related with
    | none => exact matches_components_nil
    | some both =>
        rcases both.optional with ⟨rfl, rfl⟩ | paired
        · exact matches_components_nil
        · obtain ⟨left, rfl⟩ := paired.normal.exists_entries
          obtain ⟨right, rfl⟩ := paired.normalToo.exists_entries
          exact matches_components paired

end Document
end ApiTypings
