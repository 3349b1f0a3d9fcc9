import ApiTypings.Proofs.Document.Matching

/-!
# Readings of schemas

Schemas in normal form that resemble each other are read as schemas that match.
-/

namespace ApiTypings
namespace Document

/-! ## Normal forms that resemble each other -/

/-- Two normal values of a shape resemble each other. -/
structure Paired (detail : Detail) (shape : Shape) (value other : Value) : Prop where
  resembles : Resembles detail shape value other
  normal : Normal shape value
  normalToo : Normal shape other

namespace Normal

variable {model : Model} {entries : List (String × Value)}

/-- A field of an object in normal form stands under its key. -/
theorem given?_eq
    (normal : Normal (.model model) (.mapping entries))
    {field : Field}
    (listed : field ∈ model.fields) :
    field.given? entries =
      (entries.lookup field.key).map fun value => (field.key, value) := by
  cases normal with
  | @model _ record unknown complete needed each foreign policy =>
      obtain ⟨pair, inRecord, rfl⟩ := List.mem_map.mp (complete ▸ listed)
      have distinct := Record.nodup_keys complete
      have unknownKey : unknown.lookup pair.1.key = none := by
        rw [List.lookup_eq_none_iff]
        intro entry member
        rw [bne_iff_ne]
        exact (foreign entry member pair inRecord).1.symm
      rw [given?_record complete foreign inRecord, List.lookup_append,
        Record.lookup_entries distinct inRecord, unknownKey, Option.or_none]

/-- The value of a field of an object in normal form is normal. -/
theorem of_lookup
    (normal : Normal (.model model) (.mapping entries))
    {field : Field}
    (listed : field ∈ model.fields)
    {value : Value}
    (found : entries.lookup field.key = some value) :
    Normal field.shape value := by
  have given := normal.given?_eq listed
  cases normal with
  | @model _ record unknown complete needed each foreign policy =>
      obtain ⟨pair, inRecord, rfl⟩ := List.mem_map.mp (complete ▸ listed)
      rw [given?_record complete foreign inRecord, found] at given
      obtain ⟨stored, isStored, same⟩ := Option.map_eq_some_iff.mp given
      cases same
      exact each pair inRecord value isStored

theorem exists_entries {value : Value} (normal : Normal (.model model) value) :
    ∃ entries, value = .mapping entries := by
  cases normal
  exact ⟨_, rfl⟩

theorem orReference_cases {value : Value} (normal : Normal (.orReference model) value) :
    ∃ entries, value = .mapping entries ∧
      (isReference entries = true ∧ Normal (.model .reference) (.mapping entries) ∨
        isReference entries = false ∧ Normal (.model model) (.mapping entries)) := by
  cases normal with
  | object normal inline => exact ⟨_, rfl, .inr ⟨inline, normal⟩⟩
  | reference normal =>
      cases normal with
      | model complete needed each foreign policy =>
          exact ⟨_, rfl, .inl ⟨isReference_record complete needed,
            .model complete needed each foreign policy⟩⟩

end Normal

namespace Paired

variable {detail : Detail} {shape item inner : Shape} {model : Model} {value other : Value}

theorem self (normal : Normal shape value) : Paired detail shape value value :=
  ⟨.refl shape value, normal, normal⟩

/-- The fields of objects that are looked at are paired. -/
theorem lookup
    {entries others : List (String × Value)}
    (paired : Paired detail (.model model) (.mapping entries) (.mapping others))
    {field : Field}
    (listed : field ∈ model.fields)
    (isRead : detail.reads model field.key = true) :
    Option.Rel (Paired detail field.shape) (entries.lookup field.key) (others.lookup field.key) := by
  obtain ⟨resembles, normal, normalToo⟩ := paired
  have given := normal.given?_eq listed
  have givenToo := normalToo.given?_eq listed
  cases resembles with
  | refl =>
      apply optionRel_self
      intro value found
      exact .self (normal.of_lookup listed found)
  | model free tolerant unread keys values =>
      have bound : ¬ free field := by
        intro isFree
        rw [(unread field listed isFree).1] at isRead
        contradiction
      have sameKeys := keys field listed bound
      have sameValues := values field listed bound
      rw [given, givenToo] at sameKeys sameValues
      cases found : entries.lookup field.key with
      | none =>
          rw [found] at sameKeys
          cases foundToo : others.lookup field.key with
          | none => exact .none
          | some another =>
              rw [foundToo] at sameKeys
              contradiction
      | some value =>
          rw [found] at sameKeys sameValues
          cases foundToo : others.lookup field.key with
          | none =>
              rw [foundToo] at sameKeys
              contradiction
          | some another =>
              rw [foundToo] at sameValues
              exact .some ⟨sameValues _ _ rfl rfl, normal.of_lookup listed found,
                normalToo.of_lookup listed foundToo⟩

theorem optional (paired : Paired detail (.optional inner) value other) :
    (value = .null ∧ other = .null) ∨ Paired detail inner value other := by
  obtain ⟨resembles, normal, normalToo⟩ := paired
  have nulls := resembles.eq_null_iff
  cases normal with
  | absent => exact .inl ⟨rfl, nulls.mp rfl⟩
  | present normal =>
      cases normalToo with
      | absent => exact .inl ⟨nulls.mpr rfl, rfl⟩
      | present normalToo =>
          cases resembles with
          | refl => exact .inr (.self normal)
          | optional resembles => exact .inr ⟨resembles, normal, normalToo⟩

theorem list (paired : Paired detail (.list item) value other) :
    ∃ items others, value = .list items ∧ other = .list others ∧
      List.Forall₂ (Paired detail item) items others := by
  obtain ⟨resembles, normal, normalToo⟩ := paired
  cases normal with
  | @list _ items each =>
      cases resembles with
      | refl =>
          exact ⟨items, items, rfl, rfl,
            List.forall₂_same.mpr fun value listed => .self (each value listed)⟩
      | list pairs related =>
          cases normalToo with
          | list eachToo =>
              refine ⟨_, _, rfl, rfl, forall₂_iff_exists_pairs.mpr ⟨pairs, rfl, rfl, ?_⟩⟩
              intro pair listed
              exact ⟨related pair listed, each _ (List.mem_map_of_mem listed),
                eachToo _ (List.mem_map_of_mem listed)⟩

theorem map (paired : Paired detail (.map item) value other) :
    ∃ entries others, value = .mapping entries ∧ other = .mapping others ∧
      List.Forall₂ (Named (Paired detail item)) entries others := by
  obtain ⟨resembles, normal, normalToo⟩ := paired
  cases normal with
  | @map _ entries each =>
      cases resembles with
      | refl =>
          exact ⟨entries, entries, rfl, rfl,
            forall₂_named_self fun entry listed => .self (each entry listed)⟩
      | map pairs keys related =>
          cases normalToo with
          | map eachToo =>
              refine ⟨_, _, rfl, rfl, forall₂_iff_exists_pairs.mpr ⟨pairs, rfl, rfl, ?_⟩⟩
              rintro ⟨⟨key, left⟩, ⟨_, right⟩⟩ listed
              cases keys _ listed
              exact .mk key ⟨related _ listed, each _ (List.mem_map_of_mem listed),
                eachToo _ (List.mem_map_of_mem listed)⟩

theorem extensibleMap (paired : Paired detail (.extensibleMap item) value other) :
    Paired detail (.map item) value other := by
  obtain ⟨resembles, normal, normalToo⟩ := paired
  cases normal with
  | extensibleMap plain each =>
      cases normalToo with
      | extensibleMap plainToo eachToo =>
          refine ⟨?_, .map each, .map eachToo⟩
          cases resembles with
          | refl => exact .refl _ _
          | extensibleMap resembles =>
              rwa [filter_of_plain plain, filter_of_plain plainToo] at resembles

/-- A reference is paired with a reference, and an object with an object. -/
theorem orReference (paired : Paired detail (.orReference model) value other) :
    ∃ entries others, value = .mapping entries ∧ other = .mapping others ∧
      (isReference entries = true ∧ isReference others = true ∧
          Paired detail (.model .reference) (.mapping entries) (.mapping others) ∨
        isReference entries = false ∧ isReference others = false ∧
          Paired detail (.model model) (.mapping entries) (.mapping others)) := by
  obtain ⟨resembles, normal, normalToo⟩ := paired
  obtain ⟨entries, rfl, here⟩ := normal.orReference_cases
  obtain ⟨others, rfl, there⟩ := normalToo.orReference_cases
  refine ⟨entries, others, rfl, rfl, ?_⟩
  cases resembles with
  | refl =>
      exact here.imp (fun found => ⟨found.1, found.1, .self found.2⟩)
        fun found => ⟨found.1, found.1, .self found.2⟩
  | reference referring otherToo resembles =>
      have normal := here.resolve_right fun found => by simp [referring] at found
      have normalToo := there.resolve_right fun found => by simp [otherToo] at found
      exact .inl ⟨referring, otherToo, resembles, normal.2, normalToo.2⟩
  | object inline otherToo resembles =>
      have normal := here.resolve_left fun found => by simp [inline] at found
      have normalToo := there.resolve_left fun found => by simp [otherToo] at found
      exact .inr ⟨inline, otherToo, resembles, normal.2, normalToo.2⟩

theorem flagOrSchema (paired : Paired detail .flagOrSchema value other) :
    (∃ flag, value = .bool flag ∧ other = .bool flag) ∨
      Paired detail (.orReference .schema) value other := by
  obtain ⟨resembles, normal, normalToo⟩ := paired
  cases normal with
  | further flag =>
      cases resembles with
      | refl => exact .inl ⟨flag, rfl, rfl⟩
  | furtherSchema normal =>
      cases resembles with
      | refl => exact .inr (.self normal)
      | further resembles =>
          cases normalToo with
          | furtherSchema normalToo => exact .inr ⟨resembles, normal, normalToo⟩

end Paired

/-- Whether values of a shape are looked at as a whole. -/
def Shape.isFlat : Shape → Bool
  | .optional inner => inner.isFlat
  | .list item => item.isFlat
  | .map _ | .extensibleMap _ | .model _ | .orReference _ | .flagOrSchema => false
  | _ => true

theorem Resembles.eq_of_isFlat
    {detail : Detail}
    {shape : Shape}
    {value other : Value}
    (resembles : Resembles detail shape value other)
    (flat : shape.isFlat = true) :
    other = value := by
  induction resembles with
  | refl => rfl
  | optional _ hypothesis => exact hypothesis flat
  | list pairs each hypothesis =>
      congr 1
      apply List.map_congr_left
      intro pair listed
      exact hypothesis pair listed flat
  | _ => contradiction

/-! ## Fields by their keys -/

namespace Model

/-- The shape of the field with a key. -/
def shapeAt? (model : Model) (key : String) : Option Shape :=
  (model.fields.find? fun field => field.key == key).map Field.shape

end Model

section Fields

variable
    {detail : Detail}
    {model : Model}
    {entries others : List (String × Value)}
    (paired : Paired detail (.model model) (.mapping entries) (.mapping others))

include paired

theorem Paired.readAt
    (key : String)
    {shape : Shape}
    (found : model.shapeAt? key = some shape)
    (isRead : Detail.bare.reads model key = true) :
    Option.Rel (Paired detail shape) (entries.lookup key) (others.lookup key) := by
  obtain ⟨field, isField, rfl⟩ := Option.map_eq_some_iff.mp found
  have sameKey : field.key = key := by simpa using List.find?_some isField
  subst sameKey
  exact paired.lookup (List.mem_of_find?_eq_some isField) (Detail.reads_of_bare isRead detail)

theorem Paired.flatAt
    (key : String)
    (flat : (model.shapeAt? key).map Shape.isFlat = some true)
    (isRead : detail.reads model key = true) :
    others.lookup key = entries.lookup key := by
  obtain ⟨shape, found, isFlat⟩ := Option.map_eq_some_iff.mp flat
  obtain ⟨field, isField, rfl⟩ := Option.map_eq_some_iff.mp found
  have sameKey : field.key = key := by simpa using List.find?_some isField
  subst sameKey
  have related := paired.lookup (List.mem_of_find?_eq_some isField) isRead
  generalize entries.lookup field.key = value at related
  generalize others.lookup field.key = other at related
  cases related with
  | none => rfl
  | some both => rw [both.resembles.eq_of_isFlat isFlat]

/-- Values of which types are made. -/
theorem Paired.sameAt
    (key : String)
    (flat : (model.shapeAt? key).map Shape.isFlat = some true)
    (isRead : Detail.bare.reads model key = true) :
    others.lookup key = entries.lookup key :=
  paired.flatAt key flat (Detail.reads_of_bare isRead detail)

/-- Values of which comments are made. -/
theorem Paired.remarkAt
    (annotated : detail = .annotated)
    (key : String)
    (flat : (model.shapeAt? key).map Shape.isFlat = some true)
    (isRead : Detail.annotated.reads model key = true) :
    others.lookup key = entries.lookup key :=
  paired.flatAt key flat (annotated ▸ isRead)

end Fields

/-! ## Schemas -/

namespace Node

theorem ofItems_eq (items : List Value) : Node.ofItems items = items.map Node.ofValue := by
  induction items with
  | nil => rw [Node.ofItems, List.map_nil]
  | cons item rest hypothesis => rw [Node.ofItems, hypothesis, List.map_cons]

theorem ofMap_eq (entries : List (String × Value)) :
    Node.ofMap entries = readMap Node.ofValue entries := by
  induction entries with
  | nil =>
      rw [Node.ofMap]
      rfl
  | cons entry rest hypothesis =>
      obtain ⟨key, value⟩ := entry
      rw [Node.ofMap, hypothesis]
      rfl

theorem at_eq (entries : List (String × Value)) (key : String) :
    Node.at entries key =
      ((entries.lookup key).bind Value.mapping?).map fun inner => Node.ofValue (.mapping inner) := by
  rw [Node.at, ← Entries.map_val_find?]
  cases Entries.find? entries key with
  | none => rfl
  | some found =>
      obtain ⟨value, listed⟩ := found
      cases value <;> rfl

theorem listAt_eq (entries : List (String × Value)) (key : String) :
    Node.listAt entries key =
      ((entries.lookup key).bind Value.list?).map fun items => items.map Node.ofValue := by
  rw [Node.listAt, ← Entries.map_val_find?]
  cases Entries.find? entries key with
  | none => rfl
  | some found =>
      obtain ⟨value, listed⟩ := found
      cases value <;> first | rfl | exact congrArg some (ofItems_eq _)

theorem mapAt_eq (entries : List (String × Value)) (key : String) :
    Node.mapAt entries key =
      ((entries.lookup key).bind Value.mapping?).map (readMap Node.ofValue) := by
  rw [Node.mapAt, ← Entries.map_val_find?]
  cases Entries.find? entries key with
  | none => rfl
  | some found =>
      obtain ⟨value, listed⟩ := found
      cases value <;> first | rfl | exact congrArg some (ofMap_eq _)

end Node

/-- The schema of an object, in terms of what stands under its keys. -/
theorem Schema.ofEntries_eq (entries : List (String × Value)) :
    let nodeAt (key : String) := ((entries.lookup key).bind Value.mapping?).map fun inner =>
      Node.ofValue (.mapping inner)
    let nodesAt (key : String) := ((entries.lookup key).bind Value.list?).map fun items =>
      items.map Node.ofValue
    Schema.ofEntries entries =
      { description := textAt entries "description"
        types := textsAt entries "type"
        enum := (entries.lookup "enum").bind Value.list?
        const := entries.lookup "const"
        default := entries.lookup "default"
        sample := entries.lookup "example"
        items := nodeAt "items"
        minItems := integerAt entries "minItems"
        maxItems := integerAt entries "maxItems"
        properties :=
          ((entries.lookup "properties").bind Value.mapping?).map (readMap Node.ofValue)
        required := textsAt entries "required"
        additional :=
          match entries.lookup "additionalProperties" with
          | some (.bool flag) => some (.allowed flag)
          | _ => (nodeAt "additionalProperties").map .typed
        allOf := nodesAt "allOf"
        oneOf := nodesAt "oneOf"
        anyOf := nodesAt "anyOf"
        negated := nodeAt "not"
        nullable := flagAt entries "nullable"
        deprecated := flagAt entries "deprecated" } := by
  intro nodeAt nodesAt
  rw [Schema.ofEntries, Additional.ofEntries]
  simp only [Node.at_eq, Node.listAt_eq, Node.mapAt_eq]
  rfl

/-- Values that are paired are read as nodes that match, as far as they are small enough. -/
def ReadAlike (detail : Detail) (bound : Nat) : Prop :=
  ∀ value other, sizeOf value < bound → Paired detail (.orReference .schema) value other →
    Node.Matches detail (Node.ofValue value) (Node.ofValue other)

theorem forall₂_readMap
    {α : Type}
    {detail : Detail}
    {shape : Shape}
    {Related : α → α → Prop}
    {read : Value → α}
    {entries others : List (String × Value)}
    (alike : ∀ value other, (∃ name, (name, value) ∈ entries) → Paired detail shape value other →
      Related (read value) (read other))
    (each : List.Forall₂ (Named (Paired detail shape)) entries others) :
    List.Forall₂ (Named Related) (readMap read entries) (readMap read others) := by
  induction each with
  | nil => exact .nil
  | cons named _ hypothesis =>
      cases named with
      | mk name related =>
          refine .cons (.mk name (alike _ _ ⟨name, List.mem_cons_self⟩ related)) (hypothesis ?_)
          rintro value other ⟨place, listed⟩ paired
          exact alike value other ⟨place, List.mem_cons_of_mem _ listed⟩ paired

section Nodes

variable
    {detail : Detail}
    {entries others : List (String × Value)}
    (alike : ReadAlike detail (sizeOf entries))
    {key : String}

include alike

theorem matches_at
    (related : Option.Rel (Paired detail (.optional (.orReference .schema)))
      (entries.lookup key) (others.lookup key)) :
    Option.Rel (Node.Matches detail) (Node.at entries key) (Node.at others key) := by
  rw [Node.at_eq, Node.at_eq]
  have smaller (value : Value) (found : entries.lookup key = some value) :
      sizeOf value < sizeOf entries := Value.sizeOf_lt_of_entry (Entries.mem_of_lookup found)
  generalize entries.lookup key = value at related smaller
  generalize others.lookup key = other at related
  cases related with
  | none => exact .none
  | some paired =>
      rcases paired.optional with ⟨rfl, rfl⟩ | paired
      · exact .none
      · have same := alike _ _ (smaller _ rfl) paired
        obtain ⟨left, right, rfl, rfl, _⟩ := paired.orReference
        exact .some same

theorem matches_listAt
    (related : Option.Rel (Paired detail (.optional (.list (.orReference .schema))))
      (entries.lookup key) (others.lookup key)) :
    Option.Rel (List.Forall₂ (Node.Matches detail)) (Node.listAt entries key)
      (Node.listAt others key) := by
  rw [Node.listAt_eq, Node.listAt_eq]
  have smaller (value : Value) (found : entries.lookup key = some value) :
      sizeOf value < sizeOf entries := Value.sizeOf_lt_of_entry (Entries.mem_of_lookup found)
  generalize entries.lookup key = value at related smaller
  generalize others.lookup key = other at related
  cases related with
  | none => exact .none
  | some paired =>
      rcases paired.optional with ⟨rfl, rfl⟩ | paired
      · exact .none
      · obtain ⟨left, right, rfl, rfl, each⟩ := paired.list
        have whole := smaller _ rfl
        refine .some ?_
        rw [List.forall₂_map_left_iff, List.forall₂_map_right_iff]
        obtain ⟨pairs, rfl, rfl, several⟩ := forall₂_iff_exists_pairs.mp each
        refine forall₂_iff_exists_pairs.mpr ⟨pairs, rfl, rfl, ?_⟩
        intro pair listed
        refine alike _ _ ?_ (several pair listed)
        have inside := sizeOf_lt_list (List.mem_map_of_mem (f := Prod.fst) listed)
        omega

theorem matches_mapAt
    (related : Option.Rel (Paired detail (.optional (.map (.orReference .schema))))
      (entries.lookup key) (others.lookup key)) :
    Option.Rel (List.Forall₂ (Named (Node.Matches detail))) (Node.mapAt entries key)
      (Node.mapAt others key) := by
  rw [Node.mapAt_eq, Node.mapAt_eq]
  have smaller (value : Value) (found : entries.lookup key = some value) :
      sizeOf value < sizeOf entries := Value.sizeOf_lt_of_entry (Entries.mem_of_lookup found)
  generalize entries.lookup key = value at related smaller
  generalize others.lookup key = other at related
  cases related with
  | none => exact .none
  | some paired =>
      rcases paired.optional with ⟨rfl, rfl⟩ | paired
      · exact .none
      · obtain ⟨left, right, rfl, rfl, each⟩ := paired.map
        have whole := smaller _ rfl
        refine .some (forall₂_readMap ?_ each)
        rintro value other ⟨name, listed⟩ paired
        refine alike value other ?_ paired
        have inside := sizeOf_lt_mapping listed
        dsimp only at inside
        omega

theorem matches_additional
    (related : Option.Rel (Paired detail (.optional .flagOrSchema))
      (entries.lookup "additionalProperties") (others.lookup "additionalProperties")) :
    Option.Rel (Additional.Matches (Node.Matches detail)) (Additional.ofEntries entries)
      (Additional.ofEntries others) := by
  rw [Additional.ofEntries, Additional.ofEntries, Node.at_eq, Node.at_eq]
  have smaller (value : Value) (found : entries.lookup "additionalProperties" = some value) :
      sizeOf value < sizeOf entries := Value.sizeOf_lt_of_entry (Entries.mem_of_lookup found)
  generalize entries.lookup "additionalProperties" = value at related smaller
  generalize others.lookup "additionalProperties" = other at related
  cases related with
  | none => exact .none
  | some paired =>
      rcases paired.optional with ⟨rfl, rfl⟩ | paired
      · exact .none
      · rcases paired.flagOrSchema with ⟨flag, rfl, rfl⟩ | paired
        · exact .some (.allowed flag)
        · have same := alike _ _ (smaller _ rfl) paired
          obtain ⟨left, right, rfl, rfl, _⟩ := paired.orReference
          exact .some (.typed same)

/-- Schema objects that are paired are read as schemas that match. -/
theorem matches_schema
    (paired : Paired detail (.model .schema) (.mapping entries) (.mapping others)) :
    Schema.Matches detail (Schema.ofEntries entries) (Schema.ofEntries others) := by
  rw [Schema.ofEntries, Schema.ofEntries]
  refine .mk ?frame ?remark
    (matches_at alike (paired.readAt "items" rfl rfl))
    (matches_mapAt alike (paired.readAt "properties" rfl rfl))
    (matches_additional alike (paired.readAt "additionalProperties" rfl rfl))
    (matches_listAt alike (paired.readAt "allOf" rfl rfl))
    (matches_listAt alike (paired.readAt "oneOf" rfl rfl))
    (matches_listAt alike (paired.readAt "anyOf" rfl rfl))
    (matches_at alike (paired.readAt "not" rfl rfl))
  case frame =>
    simp only [Schema.frame, textsAt, integerAt, flagAt, paired.sameAt "type" rfl rfl,
      paired.sameAt "enum" rfl rfl, paired.sameAt "const" rfl rfl,
      paired.sameAt "default" rfl rfl, paired.sameAt "minItems" rfl rfl,
      paired.sameAt "maxItems" rfl rfl, paired.sameAt "required" rfl rfl,
      paired.sameAt "nullable" rfl rfl]
  case remark =>
    intro annotated
    simp only [Schema.remark, textAt, flagAt, paired.remarkAt annotated "description" rfl rfl,
      paired.remarkAt annotated "example" rfl rfl,
      paired.remarkAt annotated "deprecated" rfl rfl]

end Nodes

theorem matches_reference
    {detail : Detail}
    {α : Type}
    {Related : α → α → Prop}
    {entries others : List (String × Value)}
    (paired : Paired detail (.model .reference) (.mapping entries) (.mapping others)) :
    OrReference.Matches detail Related (.reference (.ofEntries entries))
      (.reference (.ofEntries others)) := by
  refine .reference ?_ ?_
  · simp only [Reference.ofEntries, textAt, paired.sameAt "$ref" rfl rfl]
  · intro annotated
    simp only [Reference.ofEntries, textAt, paired.remarkAt annotated "description" rfl rfl]

/-- Nodes that are paired match: by induction on the size of the value. -/
theorem readAlike (detail : Detail) (bound : Nat) : ReadAlike detail bound := by
  induction bound with
  | zero =>
      intro value other small
      contradiction
  | succ bound hypothesis =>
      intro value other small paired
      obtain ⟨entries, others, rfl, rfl, both⟩ := paired.orReference
      rw [Node.ofValue, Node.ofValue, ← isReference_eq, ← isReference_eq]
      rcases both with ⟨refers, refersToo, paired⟩ | ⟨inline, inlineToo, paired⟩
      · rw [if_pos refers, if_pos refersToo]
        exact matches_reference paired
      · rw [inline, inlineToo, if_neg Bool.false_ne_true, if_neg Bool.false_ne_true]
        refine .inline (matches_schema ?_ paired)
        intro part another less
        refine hypothesis part another ?_
        simp only [Value.mapping.sizeOf_spec] at small
        omega

end Document
end ApiTypings
