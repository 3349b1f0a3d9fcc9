import ApiTypings.Proofs.Document.Normal

/-!
# Values that resemble each other

Two values of a shape resemble each other if they differ only in what is not looked at: keys
that a model does not know, extensions among the paths, and fields that are not read. A check
finds the same issues in both, or accepts both, and then their normal forms resemble each
other again.
-/

namespace ApiTypings

/-! ## Checks that correspond -/

namespace Corresponds

open Document

variable
    {α β γ δ : Type}
    {Related : α → β → Prop}
    {Further : γ → δ → Prop}
    {first : Checked α}
    {second : Checked β}

theorem under (part : String) (corresponds : Corresponds Related first second) :
    Corresponds Related (first.under part) (second.under part) := by
  cases corresponds with
  | ok related => exact .ok related
  | error issues => exact .error _

theorem both
    {third : Checked γ}
    {fourth : Checked δ}
    (corresponds : Corresponds Related first second)
    (further : Corresponds Further third fourth) :
    Corresponds (fun left right => Related left.1 right.1 ∧ Further left.2 right.2)
      (Checked.both first third) (Checked.both second fourth) := by
  cases corresponds with
  | error issues => cases further <;> exact .error _
  | ok related =>
      cases further with
      | error issues => exact .error _
      | ok relatedToo => exact .ok ⟨related, relatedToo⟩

theorem cons
    {rest : Checked (List α)}
    {others : Checked (List β)}
    (corresponds : Corresponds Related first second)
    (several : Corresponds (List.Forall₂ Related) rest others) :
    Corresponds (List.Forall₂ Related) (Checked.cons first rest) (Checked.cons second others) := by
  refine (both corresponds several).map ?_
  rintro left right - - ⟨related, relatedToo⟩
  exact .cons related relatedToo

end Corresponds

namespace Document

/-! ## What is read -/

/-- How much of a document is looked at. -/
inductive Detail
  /-- All that types and comments are made of. -/
  | annotated
  /-- Only what types are made of. -/
  | bare
  deriving DecidableEq, Repr

namespace Model

/-- The fields of which nothing is made. -/
def idle : Model → List String
  | .reference => ["summary"]
  | .schema => ["title", "format", "minimum", "maximum", "exclusiveMinimum", "exclusiveMaximum",
      "multipleOf", "minLength", "maxLength", "pattern", "uniqueItems", "minProperties",
      "maxProperties", "readOnly", "writeOnly"]
  | .mediaType => ["example"]
  | .parameter => ["example"]
  | .operation => ["tags"]
  | .pathItem => ["summary", "description"]
  | .components => ["securitySchemes"]
  | .document => ["openapi", "info", "servers", "security", "tags"]
  | _ => []

/-- The fields of which comments are made. -/
def remarks : Model → List String
  | .reference => ["description"]
  | .schema => ["description", "example", "deprecated"]
  | .parameter => ["description", "deprecated"]
  | .requestBody => ["description"]
  | .response => ["description"]
  | .operation => ["summary", "description", "operationId", "deprecated"]
  | _ => []

end Model

/-- Whether a field of a model is looked at. -/
def Detail.reads (detail : Detail) (model : Model) (key : String) : Bool :=
  !model.idle.contains key &&
    match detail with
    | .annotated => true
    | .bare => !model.remarks.contains key

/-- What types are made of is looked at in any case. -/
theorem Detail.reads_of_bare
    {model : Model}
    {key : String}
    (bare : Detail.bare.reads model key = true)
    (detail : Detail) :
    detail.reads model key = true := by
  cases detail with
  | bare => exact bare
  | annotated =>
      unfold Detail.reads at bare ⊢
      rw [Bool.and_eq_true] at bare
      rw [bare.1]
      rfl

/-- Only fields that may be missing are not looked at. -/
theorem Model.required_eq_false_of_unread (model : Model) (detail : Detail) :
    ∀ field ∈ model.fields, detail.reads model field.key = false → field.required = false := by
  cases model <;> cases detail <;> decide

/-- A field has no value, or one that is accepted. -/
def Field.Accepts (field : Field) (entries : List (String × Value)) : Prop :=
  ∀ given, field.given? entries = some given → ∃ normal, normalize field.shape given.2 = .ok normal

/-! ## Resemblance -/

/-- Two values of a shape differ only in what is not looked at. -/
inductive Resembles (detail : Detail) : Shape → Value → Value → Prop
  | refl (shape : Shape) (value : Value) : Resembles detail shape value value
  | optional {inner : Shape} {value other : Value} (resembles : Resembles detail inner value other) :
      Resembles detail (.optional inner) value other
  | list {item : Shape} (pairs : List (Value × Value))
      (each : ∀ pair ∈ pairs, Resembles detail item pair.1 pair.2) :
      Resembles detail (.list item) (.list (pairs.map Prod.fst)) (.list (pairs.map Prod.snd))
  | map {item : Shape} (pairs : List ((String × Value) × String × Value))
      (keys : ∀ pair ∈ pairs, pair.2.1 = pair.1.1)
      (each : ∀ pair ∈ pairs, Resembles detail item pair.1.2 pair.2.2) :
      Resembles detail (.map item)
        (.mapping (pairs.map Prod.fst)) (.mapping (pairs.map Prod.snd))
  /-- Extensions are dropped, whatever they are. -/
  | extensibleMap {item : Shape} {entries others : List (String × Value)}
      (resembles : Resembles detail (.map item)
        (.mapping (entries.filter fun entry => !isExtension entry.1))
        (.mapping (others.filter fun entry => !isExtension entry.1))) :
      Resembles detail (.extensibleMap item) (.mapping entries) (.mapping others)
  /-- Some fields that are not looked at have any values that are accepted, or none. The other
  ones stand under the same keys, and have values that resemble each other. -/
  | model {model : Model} {entries others : List (String × Value)}
      (free : Field → Prop)
      (tolerant : model.unknown = .kept)
      (unread : ∀ field ∈ model.fields, free field →
        detail.reads model field.key = false ∧ field.Accepts entries ∧ field.Accepts others)
      (keys : ∀ field ∈ model.fields, ¬ free field →
        (field.given? entries).map Prod.fst = (field.given? others).map Prod.fst)
      (values : ∀ field ∈ model.fields, ¬ free field →
        ∀ given another, field.given? entries = some given → field.given? others = some another →
          Resembles detail field.shape given.2 another.2) :
      Resembles detail (.model model) (.mapping entries) (.mapping others)
  | reference {model : Model} {entries others : List (String × Value)}
      (referring : isReference entries = true)
      (otherToo : isReference others = true)
      (resembles : Resembles detail (.model .reference) (.mapping entries) (.mapping others)) :
      Resembles detail (.orReference model) (.mapping entries) (.mapping others)
  | object {model : Model} {entries others : List (String × Value)}
      (inline : isReference entries = false)
      (otherToo : isReference others = false)
      (resembles : Resembles detail (.model model) (.mapping entries) (.mapping others)) :
      Resembles detail (.orReference model) (.mapping entries) (.mapping others)
  | further {entries others : List (String × Value)}
      (resembles : Resembles detail (.orReference .schema) (.mapping entries) (.mapping others)) :
      Resembles detail .flagOrSchema (.mapping entries) (.mapping others)

namespace Resembles

variable {detail : Detail} {shape item : Shape} {value other : Value}

/-- Where one value is `null`, the other one is, too. -/
theorem eq_null_iff (resembles : Resembles detail shape value other) :
    value = .null ↔ other = .null := by
  induction resembles with
  | refl => rfl
  | optional _ hypothesis => exact hypothesis
  | _ => exact iff_of_false nofun nofun

theorem ofItems
    {items others : List Value}
    (each : List.Forall₂ (Resembles detail item) items others) :
    Resembles detail (.list item) (.list items) (.list others) := by
  obtain ⟨pairs, rfl, rfl, related⟩ := forall₂_iff_exists_pairs.mp each
  exact .list pairs related

theorem ofEntries
    {entries others : List (String × Value)}
    (each : List.Forall₂ (fun entry another =>
      another.1 = entry.1 ∧ Resembles detail item entry.2 another.2) entries others) :
    Resembles detail (.map item) (.mapping entries) (.mapping others) := by
  obtain ⟨pairs, rfl, rfl, related⟩ := forall₂_iff_exists_pairs.mp each
  exact .map pairs (fun pair listed => (related pair listed).1)
    fun pair listed => (related pair listed).2

end Resembles

/-! ## Parts that resemble each other -/

section Parts

variable {detail : Detail} {item : Shape}

theorem corresponds_normalizeItems
    (index : Nat)
    {pairs : List (Value × Value)}
    (each : ∀ pair ∈ pairs, Corresponds (Resembles detail item)
      (normalize item pair.1) (normalize item pair.2)) :
    Corresponds (List.Forall₂ (Resembles detail item))
      (normalizeItems item index (pairs.map Prod.fst))
      (normalizeItems item index (pairs.map Prod.snd)) := by
  induction pairs generalizing index with
  | nil =>
      rw [List.map_nil, List.map_nil, normalizeItems]
      exact .ok .nil
  | cons pair rest hypothesis =>
      rw [List.map_cons, List.map_cons, normalizeItems, normalizeItems]
      obtain ⟨first, others⟩ := List.forall_mem_cons.mp each
      exact (first.under _).cons (hypothesis (index + 1) others)

theorem corresponds_normalizeEntries
    {pairs : List ((String × Value) × String × Value)}
    (keys : ∀ pair ∈ pairs, pair.2.1 = pair.1.1)
    (each : ∀ pair ∈ pairs, Corresponds (Resembles detail item)
      (normalize item pair.1.2) (normalize item pair.2.2)) :
    Corresponds
      (List.Forall₂ fun entry another =>
        another.1 = entry.1 ∧ Resembles detail item entry.2 another.2)
      (normalizeEntries item (pairs.map Prod.fst))
      (normalizeEntries item (pairs.map Prod.snd)) := by
  induction pairs with
  | nil =>
      rw [List.map_nil, List.map_nil, normalizeEntries]
      exact .ok .nil
  | cons pair rest hypothesis =>
      obtain ⟨⟨key, value⟩, ⟨_, other⟩⟩ := pair
      obtain ⟨sameKey, sameKeys⟩ := List.forall_mem_cons.mp keys
      dsimp only at sameKey
      subst sameKey
      obtain ⟨first, others⟩ := List.forall_mem_cons.mp each
      rw [List.map_cons, List.map_cons, normalizeEntries, normalizeEntries]
      refine Corresponds.cons ?_ (hypothesis sameKeys others)
      refine (first.under _).map ?_
      rintro left right - - related
      exact ⟨rfl, related⟩

end Parts

/-! ## Objects that resemble each other -/

/-- Fields, each with its values in two objects. -/
abbrev Comparison : Type := List (Field × Option Value × Option Value)

namespace Comparison

/-- The record of the first object. -/
def left (table : Comparison) : Record := table.map fun row => (row.1, row.2.1)

/-- The record of the second object. -/
def right (table : Comparison) : Record := table.map fun row => (row.1, row.2.2)

theorem map_fst_left (table : Comparison) : table.left.map Prod.fst = table.map Prod.fst := by
  simp [left]

theorem map_fst_right (table : Comparison) : table.right.map Prod.fst = table.map Prod.fst := by
  simp [right]

end Comparison

/-- Fields that are checked alike one by one are so together. -/
theorem corresponds_normalizeFields
    {fields : List Field}
    {entries others : List (String × Value)}
    {Related : Field → Option Value → Option Value → Prop}
    (each : ∀ field ∈ fields, Corresponds (Related field)
      (field.check (field.given? entries)) (field.check (field.given? others))) :
    Corresponds
      (fun normal another => ∃ table : Comparison, table.map Prod.fst = fields ∧
        table.left.entries = normal ∧ table.right.entries = another ∧
        ∀ row ∈ table, row.1.check (row.1.given? entries) = .ok row.2.1 ∧
          row.1.check (row.1.given? others) = .ok row.2.2 ∧ Related row.1 row.2.1 row.2.2)
      (normalizeFields fields entries) (normalizeFields fields others) := by
  induction fields with
  | nil =>
      rw [normalizeFields, normalizeFields]
      exact .ok ⟨[], rfl, rfl, rfl, by simp⟩
  | cons field rest hypothesis =>
      obtain ⟨first, others⟩ := List.forall_mem_cons.mp each
      have found := first.mono fun left right fromLeft fromRight related =>
        And.intro fromLeft (And.intro fromRight related)
      rw [normalizeFields_cons, normalizeFields_cons]
      refine (found.both (hypothesis others)).map ?_
      rintro ⟨value, normal⟩ ⟨another, normalToo⟩ - - ⟨row, table, rfl, rfl, rfl, rows⟩
      refine ⟨(field, value, another) :: table, rfl, ?_, ?_,
        List.forall_mem_cons.mpr ⟨row, rows⟩⟩
      · exact Record.entries_cons _ _
      · exact Record.entries_cons _ _

section Objects

variable
    {detail : Detail}
    {model : Model}
    {free : Field → Prop}
    {entries others : List (String × Value)}

/-- A field that may be missing and is accepted passes its check. -/
theorem Field.exists_check_eq_ok
    {field : Field}
    (dispensable : field.required = false)
    (accepts : field.Accepts entries) :
    ∃ found, field.check (field.given? entries) = .ok found := by
  cases isGiven : field.given? entries with
  | none =>
      refine ⟨none, ?_⟩
      rw [Field.check, dispensable, if_neg Bool.false_ne_true]
  | some entry =>
      obtain ⟨normal, accepted⟩ := accepts entry isGiven
      refine ⟨some normal, ?_⟩
      rw [Field.check, accepted]
      rfl

/-- What a check has found is accepted again. -/
theorem Field.accepts_of_check
    {field : Field}
    (stable : field.shape.isStable = true)
    {given : Option (String × Value)}
    {found : Option Value}
    (checked : field.check given = .ok found)
    (isGiven : field.given? entries = found.map fun value => (field.key, value)) :
    field.Accepts entries := by
  intro entry isEntry
  rw [isGiven] at isEntry
  obtain ⟨value, rfl, rfl⟩ := Option.map_eq_some_iff.mp isEntry
  rcases Field.check_eq_ok_iff.mp checked with ⟨_, impossible, _⟩ | ⟨_, origin, _, _, same, normalized⟩
  · contradiction
  · cases same
    exact ⟨value, (settles origin _ stable _ normalized).normalize_eq⟩

/-- A field is checked alike in two objects if it stands under the same key and has values
that are checked alike. -/
theorem corresponds_check
    {field : Field}
    (keys : (field.given? entries).map Prod.fst = (field.given? others).map Prod.fst)
    (values : ∀ given another,
      field.given? entries = some given → field.given? others = some another →
      Corresponds (Resembles detail field.shape)
        (normalize field.shape given.2) (normalize field.shape another.2)) :
    Corresponds (Option.Rel (Resembles detail field.shape))
      (field.check (field.given? entries)) (field.check (field.given? others)) := by
  cases isGiven : field.given? entries with
  | none =>
      rw [isGiven] at keys
      rw [Option.map_eq_none_iff.mp keys.symm]
      refine (Corresponds.refl (field.check none)).mono ?_
      rintro left right isNone - rfl
      rcases Field.check_eq_ok_iff.mp isNone with ⟨_, rfl, _⟩ | ⟨_, _, _, impossible, _⟩
      · exact .none
      · contradiction
  | some given =>
      rw [isGiven] at keys
      obtain ⟨another, isGivenToo, sameKey⟩ := Option.map_eq_some_iff.mp keys.symm
      rw [isGivenToo]
      obtain ⟨key, value⟩ := given
      obtain ⟨_, other⟩ := another
      dsimp only at sameKey
      subst sameKey
      refine ((values _ _ isGiven isGivenToo).under _).map ?_
      rintro left right - - related
      exact .some related

/-- Normal forms of objects whose fields are found alike resemble each other. -/
theorem resembles_of_comparison
    {table : Comparison}
    {unknown unknownToo : List (String × Value)}
    (tolerant : model.unknown = .kept)
    (unread : ∀ field ∈ model.fields, free field → detail.reads model field.key = false)
    (complete : table.map Prod.fst = model.fields)
    (foreign : Foreign table.left unknown)
    (foreignToo : Foreign table.right unknownToo)
    (rows : ∀ row ∈ table, row.1.check (row.1.given? entries) = .ok row.2.1 ∧
      row.1.check (row.1.given? others) = .ok row.2.2 ∧
      (¬ free row.1 → Option.Rel (Resembles detail row.1.shape) row.2.1 row.2.2)) :
    Resembles detail (.model model) (.mapping (table.left.entries ++ unknown))
      (.mapping (table.right.entries ++ unknownToo)) := by
  have leftGiven (row : Field × Option Value × Option Value) (listed : row ∈ table) :
      row.1.given? (table.left.entries ++ unknown) =
        row.2.1.map fun value => (row.1.key, value) :=
    given?_record (table.map_fst_left.trans complete) foreign
      (List.mem_map_of_mem (f := fun row => (row.1, row.2.1)) listed)
  have rightGiven (row : Field × Option Value × Option Value) (listed : row ∈ table) :
      row.1.given? (table.right.entries ++ unknownToo) =
        row.2.2.map fun value => (row.1.key, value) :=
    given?_record (table.map_fst_right.trans complete) foreignToo
      (List.mem_map_of_mem (f := fun row => (row.1, row.2.2)) listed)
  refine .model free tolerant ?_ ?_ ?_
  · intro field inModel isFree
    obtain ⟨row, listed, rfl⟩ := List.mem_map.mp (complete ▸ inModel)
    have stable := model.isStable_fields _ inModel
    exact ⟨unread _ inModel isFree,
      Field.accepts_of_check stable (rows row listed).1 (leftGiven row listed),
      Field.accepts_of_check stable (rows row listed).2.1 (rightGiven row listed)⟩
  · intro field inModel bound
    obtain ⟨row, listed, rfl⟩ := List.mem_map.mp (complete ▸ inModel)
    have related := (rows row listed).2.2 bound
    rw [leftGiven row listed, rightGiven row listed]
    generalize row.2.1 = value at related
    generalize row.2.2 = other at related
    cases related <;> rfl
  · intro field inModel bound given another isGiven isGivenToo
    obtain ⟨row, listed, rfl⟩ := List.mem_map.mp (complete ▸ inModel)
    rw [leftGiven row listed] at isGiven
    rw [rightGiven row listed] at isGivenToo
    obtain ⟨value, isValue, rfl⟩ := Option.map_eq_some_iff.mp isGiven
    obtain ⟨other, isOther, rfl⟩ := Option.map_eq_some_iff.mp isGivenToo
    have related := (rows row listed).2.2 bound
    rw [isValue, isOther] at related
    cases related with
    | some resembles => exact resembles

/-- A field that is not looked at passes its check. -/
theorem corresponds_check_of_unread
    {field : Field}
    (listed : field ∈ model.fields)
    (unread : detail.reads model field.key = false)
    (accepts : field.Accepts entries)
    (acceptsToo : field.Accepts others) :
    Corresponds (fun _ _ => True)
      (field.check (field.given? entries)) (field.check (field.given? others)) := by
  have dispensable := model.required_eq_false_of_unread detail field listed unread
  obtain ⟨left, fromLeft⟩ := Field.exists_check_eq_ok dispensable accepts
  obtain ⟨right, fromRight⟩ := Field.exists_check_eq_ok dispensable acceptsToo
  rw [fromLeft, fromRight]
  exact .ok trivial

theorem checkUnknown_of_kept (kept : model.unknown = .kept) (entries : List (String × Value)) :
    checkUnknown model entries [] = .ok (unknownEntries model.fields entries) := by
  simp [checkUnknown, kept]

/-- Objects whose fields are checked alike are checked alike. -/
theorem corresponds_normalizeModel
    (tolerant : model.unknown = .kept)
    (unread : ∀ field ∈ model.fields, free field → detail.reads model field.key = false)
    (each : ∀ field ∈ model.fields, Corresponds
      (fun value other => ¬ free field → Option.Rel (Resembles detail field.shape) value other)
      (field.check (field.given? entries)) (field.check (field.given? others))) :
    Corresponds (Resembles detail (.model model))
      (normalizeModel model entries []) (normalizeModel model others []) := by
  rw [normalizeModel, normalizeModel, checkUnknown_of_kept tolerant, checkUnknown_of_kept tolerant]
  have unknown : Corresponds
      (fun left right => left = unknownEntries model.fields entries ∧
        right = unknownEntries model.fields others)
      (.ok (unknownEntries model.fields entries) : Checked (List (String × Value)))
      (.ok (unknownEntries model.fields others)) :=
    .ok ⟨rfl, rfl⟩
  refine ((corresponds_normalizeFields each).both unknown).map ?_
  rintro ⟨_, _⟩ ⟨_, _⟩ - - ⟨⟨table, complete, rfl, rfl, rows⟩, rfl, rfl⟩
  refine resembles_of_comparison tolerant unread complete ?_ ?_ rows
  · rw [← complete, ← table.map_fst_left]
    apply foreign_unknownEntries
    intro pair listed
    obtain ⟨row, member, rfl⟩ := List.mem_map.mp listed
    exact (rows row member).1
  · rw [← complete, ← table.map_fst_right]
    apply foreign_unknownEntries
    intro pair listed
    obtain ⟨row, member, rfl⟩ := List.mem_map.mp listed
    exact (rows row member).2.1

end Objects

/-! ## Values that resemble each other are checked alike -/

section Values

variable {detail : Detail}

theorem corresponds_same (shape : Shape) (outcome : Checked Value) :
    Corresponds (Resembles detail shape) outcome outcome := by
  refine (Corresponds.refl outcome).mono ?_
  rintro left right - - rfl
  exact .refl shape left

theorem corresponds_optional
    {inner : Shape}
    {value other : Value}
    (resembles : Resembles detail inner value other)
    (stable : (Shape.optional inner).isStable = true)
    (alike : inner.isStable = true →
      Corresponds (Resembles detail inner) (normalize inner value) (normalize inner other)) :
    Corresponds (Resembles detail (.optional inner))
      (normalize (.optional inner) value) (normalize (.optional inner) other) := by
  by_cases absent : value = .null
  · rw [resembles.eq_null_iff.mp absent, absent]
    exact corresponds_same _ _
  · have present : other ≠ .null := fun isNull => absent (resembles.eq_null_iff.mpr isNull)
    rw [normalize_optional_of_ne inner absent, normalize_optional_of_ne inner present]
    rcases Bool.or_eq_true_iff.mp stable with texts | stable
    · -- Only the same texts resemble each other.
      cases resembles with
      | refl => exact corresponds_same _ _
      | _ => contradiction
    · refine (alike stable).mono ?_
      rintro left right - - related
      exact .optional related

theorem corresponds_flagOrSchema
    {entries others : List (String × Value)}
    (alike : Corresponds (Resembles detail (.orReference .schema))
      (normalize (.orReference .schema) (.mapping entries))
      (normalize (.orReference .schema) (.mapping others))) :
    Corresponds (Resembles detail .flagOrSchema)
      (normalize .flagOrSchema (.mapping entries)) (normalize .flagOrSchema (.mapping others)) := by
  have schemas := alike.mono fun left right fromLeft fromRight related =>
    And.intro related
      (And.intro (settles _ (.orReference .schema) rfl left fromLeft).exists_mapping
        (settles _ (.orReference .schema) rfl right fromRight).exists_mapping)
  have noFlag (inner : List (String × Value)) :
      checkFlag (.mapping inner) = .error [⟨[], .notFlag⟩] := rfl
  rw [normalize_flagOrSchema, normalize_flagOrSchema, noFlag, noFlag]
  generalize normalize (.orReference .schema) (.mapping entries) = first at schemas ⊢
  generalize normalize (.orReference .schema) (.mapping others) = second at schemas ⊢
  cases schemas with
  | error issues => exact .error _
  | ok both =>
      obtain ⟨related, ⟨_, rfl⟩, ⟨_, rfl⟩⟩ := both
      exact .ok (.further related)

end Values

/-- The same issues are found in values that resemble each other, or their normal forms
resemble each other. -/
theorem corresponds_normalize
    {detail : Detail}
    {shape : Shape}
    {value other : Value}
    (resembles : Resembles detail shape value other)
    (stable : shape.isStable = true) :
    Corresponds (Resembles detail shape) (normalize shape value) (normalize shape other) := by
  induction resembles with
  | refl shape value => exact corresponds_same shape _
  | optional resembles hypothesis => exact corresponds_optional resembles stable hypothesis
  | list pairs each hypothesis =>
      rw [normalize_list, normalize_list]
      refine (corresponds_normalizeItems 0 fun pair listed => hypothesis pair listed stable).map ?_
      rintro left right - - related
      exact .ofItems related
  | map pairs keys each hypothesis =>
      rw [normalize_map, normalize_map]
      refine (corresponds_normalizeEntries keys fun pair listed => hypothesis pair listed stable).map ?_
      rintro left right - - related
      exact .ofEntries related
  | @extensibleMap item entries others resembles hypothesis =>
      rw [normalize_extensibleMap, normalize_extensibleMap]
      refine (hypothesis stable).mono ?_
      rintro left right fromLeft fromRight related
      rw [← normalize_extensibleMap] at fromLeft fromRight
      cases settles _ (.extensibleMap item) stable left fromLeft with
      | extensibleMap plain =>
          cases settles _ (.extensibleMap item) stable right fromRight with
          | extensibleMap plainToo =>
              apply Resembles.extensibleMap
              rwa [filter_of_plain plain, filter_of_plain plainToo]
  | model free tolerant unread keys values hypothesis =>
      rw [normalize_model, normalize_model]
      apply corresponds_normalizeModel tolerant fun field listed isFree =>
        (unread field listed isFree).1
      intro field listed
      by_cases isFree : free field
      · obtain ⟨notRead, accepts, acceptsToo⟩ := unread field listed isFree
        have alike := corresponds_check_of_unread listed notRead accepts acceptsToo
        exact alike.mono fun left right _ _ _ => absurd isFree
      · have alike := corresponds_check (keys field listed isFree)
          fun given another isGiven isGivenToo =>
            hypothesis field listed isFree given another isGiven isGivenToo
              (Model.isStable_fields _ field listed)
        exact alike.mono fun left right _ _ related _ => related
  | reference referring otherToo resembles hypothesis =>
      rw [normalize_orReference, normalize_orReference, namedEntries, namedEntries, referring,
        otherToo, if_pos rfl, if_pos rfl]
      refine ((hypothesis rfl).under _).mono ?_
      rintro left right fromLeft fromRight related
      obtain ⟨_, rfl, refers⟩ :=
        exists_reference_of_normalize (Checked.under_eq_ok_iff.mp fromLeft)
      obtain ⟨_, rfl, refersToo⟩ :=
        exists_reference_of_normalize (Checked.under_eq_ok_iff.mp fromRight)
      exact .reference refers refersToo related
  | object inline otherToo resembles hypothesis =>
      rw [normalize_orReference, normalize_orReference, namedEntries, namedEntries, inline,
        otherToo, if_neg Bool.false_ne_true, if_neg Bool.false_ne_true]
      refine ((hypothesis rfl).under _).mono ?_
      rintro left right fromLeft fromRight related
      have noReference := of_decide_eq_true stable
      obtain ⟨_, rfl, stays⟩ :=
        exists_object_of_normalize (Checked.under_eq_ok_iff.mp fromLeft) noReference inline
      obtain ⟨_, rfl, staysToo⟩ :=
        exists_object_of_normalize (Checked.under_eq_ok_iff.mp fromRight) noReference otherToo
      exact .object stays staysToo related
  | further _ hypothesis => exact corresponds_flagOrSchema (hypothesis rfl)

end Document
end ApiTypings
