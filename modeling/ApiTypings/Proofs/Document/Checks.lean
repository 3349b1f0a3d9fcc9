import ApiTypings.Proofs.Document.Records

/-!
# Checks

How the check of a value goes over its parts: item by item, entry by entry and field by
field.
-/

namespace ApiTypings
namespace Document

/-! ## The cases of a check -/

theorem normalize_optional (inner : Shape) (value : Value) :
    normalize (.optional inner) value =
      match value with
      | .null => .ok .null
      | other => normalize inner other :=
  normalize.eq_def (.optional inner) value

/-- The entries of a mapping whose keys are texts. -/
def namedEntries : Value → List (String × Value)
  | .mapping entries => entries
  | .keyed entries => Value.textEntries entries
  | _ => []

theorem normalize_optional_of_ne (inner : Shape) {value : Value} (given : value ≠ .null) :
    normalize (.optional inner) value = normalize inner value := by
  rw [normalize_optional]
  cases value <;> first | rfl | exact absurd rfl given

theorem normalize_list (item : Shape) (items : List Value) :
    normalize (.list item) (.list items) = (normalizeItems item 0 items).map .list := by
  rw [normalize.eq_def]

theorem normalize_map (item : Shape) (entries : List (String × Value)) :
    normalize (.map item) (.mapping entries) = (normalizeEntries item entries).map .mapping := by
  rw [normalize.eq_def]

theorem normalize_extensibleMap (item : Shape) (entries : List (String × Value)) :
    normalize (.extensibleMap item) (.mapping entries) =
      normalize (.map item) (.mapping (entries.filter fun entry => !isExtension entry.1)) := by
  rw [normalize.eq_def, normalize_map]

theorem normalize_model (model : Model) (entries : List (String × Value)) :
    normalize (.model model) (.mapping entries) = normalizeModel model entries [] := by
  rw [normalize.eq_def]

theorem exists_of_normalize_model
    {model : Model}
    {value normal : Value}
    (checked : normalize (.model model) value = .ok normal) :
    ∃ strays, normalizeModel model (namedEntries value) strays = .ok normal := by
  rw [normalize.eq_def] at checked
  cases value with
  | mapping entries => exact ⟨_, checked⟩
  | keyed entries => exact ⟨_, checked⟩
  | _ => contradiction

/-- An object of a model stands in place of a reference unless it has the key of one. -/
theorem normalize_orReference (model : Model) (value : Value) :
    normalize (.orReference model) value =
      if isReference (namedEntries value) then
        (normalize (.model .reference) value).under "reference"
      else (normalize (.model model) value).under "object" := by
  rw [normalize.eq_def, normalize.eq_def (.model .reference), normalize.eq_def (.model model)]
  cases value with
  | mapping entries => exact normalizeTagged.eq_def model entries []
  | keyed entries => exact normalizeTagged.eq_def model _ _
  | _ => rfl

/-- What is no flag must be a reference or a schema. -/
theorem normalize_flagOrSchema (value : Value) :
    normalize .flagOrSchema value =
      match checkFlag value with
      | .ok flag => .ok (.bool flag)
      | .error issues =>
          match normalize (.orReference .schema) value with
          | .ok normal => .ok normal
          | .error others =>
              .error (((Checked.under "bool" (.error issues : Checked Value)).issues) ++
                (Checked.under schemaBranch (.error others : Checked Value)).issues) := by
  rw [normalize.eq_def, normalize.eq_def (.orReference .schema)]
  dsimp only
  cases checkFlag value with
  | ok flag => rfl
  | error issues =>
      cases value with
      | mapping entries =>
          dsimp only [Except.map]
          cases normalizeTagged .schema entries [] <;> rfl
      | keyed entries =>
          dsimp only [Except.map]
          cases normalizeTagged .schema _ _ <;> rfl
      | _ => rfl

/-! ## Parts of a value -/

theorem normalizeItems_eq_ok_iff {shape : Shape} {index : Nat} {items normal : List Value} :
    normalizeItems shape index items = .ok normal ↔
      List.Forall₂ (fun item result => normalize shape item = .ok result) items normal := by
  induction items generalizing index normal with
  | nil =>
      rw [normalizeItems, List.forall₂_nil_left_iff]
      simp [eq_comm]
  | cons item rest hypothesis =>
      rw [normalizeItems, Checked.cons_eq_ok_iff, List.forall₂_cons_left_iff]
      simp only [Checked.under_eq_ok_iff, hypothesis]

theorem normalizeEntries_eq_ok_iff {shape : Shape} {entries normal : List (String × Value)} :
    normalizeEntries shape entries = .ok normal ↔
      List.Forall₂ (fun entry result =>
        result.1 = entry.1 ∧ normalize shape entry.2 = .ok result.2) entries normal := by
  induction entries generalizing normal with
  | nil =>
      rw [normalizeEntries, List.forall₂_nil_left_iff]
      simp [eq_comm]
  | cons entry rest hypothesis =>
      obtain ⟨key, value⟩ := entry
      rw [normalizeEntries, Checked.cons_eq_ok_iff, List.forall₂_cons_left_iff]
      simp only [Checked.map_eq_ok_iff, Checked.under_eq_ok_iff, hypothesis, Prod.exists]
      grind

theorem forall₂_of_normalizePairs
    {shape : Shape}
    {entries : List (Key × Value)}
    {normal : List (String × Value)}
    (checked : normalizePairs shape entries = .ok normal) :
    List.Forall₂ (fun entry result =>
      checkText entry.1.value = .ok result.1 ∧ normalize shape entry.2 = .ok result.2)
      entries normal := by
  induction entries generalizing normal with
  | nil =>
      rw [normalizePairs] at checked
      cases checked
      exact .nil
  | cons entry rest hypothesis =>
      obtain ⟨key, value⟩ := entry
      rw [normalizePairs, Checked.cons_eq_ok_iff] at checked
      obtain ⟨first, others, one, several, rfl⟩ := checked
      simp only [Checked.both_eq_ok_iff, checkKey, Checked.under_eq_ok_iff] at one
      exact .cons one (hypothesis several)

theorem normalizeModel_eq_ok_iff
    {model : Model}
    {entries : List (String × Value)}
    {strays : List Key}
    {normal : Value} :
    normalizeModel model entries strays = .ok normal ↔
      ∃ record : Record, ∃ unknown, record.map Prod.fst = model.fields ∧
        (∀ pair ∈ record, pair.1.check (pair.1.given? entries) = .ok pair.2) ∧
        checkUnknown model entries strays = .ok unknown ∧
        normal = .mapping (record.entries ++ unknown) := by
  rw [normalizeModel, Checked.map_eq_ok_iff]
  simp only [Checked.both_eq_ok_iff, normalizeFields_eq_ok_iff, Prod.exists]
  constructor
  · rintro ⟨_, unknown, ⟨⟨record, complete, rfl, each⟩, checked⟩, rfl⟩
    exact ⟨record, unknown, complete, each, checked, rfl⟩
  · rintro ⟨record, unknown, complete, each, checked, rfl⟩
    exact ⟨record.entries, unknown, ⟨⟨record, complete, rfl, each⟩, checked⟩, rfl⟩

theorem checkUnknown_cases
    {model : Model}
    {entries unknown : List (String × Value)}
    {strays : List Key}
    (checked : checkUnknown model entries strays = .ok unknown) :
    (model.unknown = .kept ∧ unknown = unknownEntries model.fields entries) ∨ unknown = [] := by
  unfold checkUnknown at checked
  cases policy : model.unknown with
  | kept =>
      simp only [policy] at checked
      split at checked
      · exact .inl ⟨rfl, (Except.ok.inj checked).symm⟩
      · contradiction
  | dropped =>
      simp only [policy] at checked
      exact .inr (Except.ok.inj checked).symm
  | refused =>
      simp only [policy] at checked
      split at checked
      · exact .inr (Except.ok.inj checked).symm
      · contradiction

theorem foreign_of_checkUnknown
    {model : Model}
    {record : Record}
    {entries unknown : List (String × Value)}
    {strays : List Key}
    (complete : record.map Prod.fst = model.fields)
    (fields : ∀ pair ∈ record, pair.1.check (pair.1.given? entries) = .ok pair.2)
    (checked : checkUnknown model entries strays = .ok unknown) :
    Foreign record unknown := by
  rcases checkUnknown_cases checked with ⟨_, rfl⟩ | rfl
  · rw [← complete]
    exact foreign_unknownEntries fields
  · exact fun entry member => absurd member List.not_mem_nil

/-! ## References -/

theorem isReference_eq (entries : List (String × Value)) :
    isReference entries = (entries.lookup "$ref").isSome := by
  rw [isReference, ← Entries.map_val_find?, Option.isSome_map]

/-- An object that is normal for references is one. -/
theorem isReference_record
    {record : Record}
    {unknown : List (String × Value)}
    (complete : record.map Prod.fst = Model.fields .reference)
    (present : ∀ pair ∈ record, pair.1.required = true → pair.2 ≠ none) :
    isReference (record.entries ++ unknown) = true := by
  obtain ⟨⟨field, found⟩, rest, rfl, rfl, _⟩ := List.map_eq_cons_iff.mp complete
  obtain ⟨value, rfl⟩ := Option.ne_none_iff_exists'.mp (present _ List.mem_cons_self rfl)
  rw [isReference_eq, Record.entries_cons]
  rfl

theorem Model.key_ne_of_ne_reference (model : Model) :
    model ≠ .reference → ∀ field ∈ model.fields, field.key ≠ "$ref" := by
  cases model <;> decide

/-- An object of another model is none. -/
theorem isReference_record_eq_false
    {model : Model}
    {record : Record}
    {unknown : List (String × Value)}
    (complete : record.map Prod.fst = model.fields)
    (other : model ≠ .reference)
    (absent : ∀ entry ∈ unknown, entry.1 ≠ "$ref") :
    isReference (record.entries ++ unknown) = false := by
  rw [isReference_eq, Option.isSome_eq_false_iff, Option.isNone_iff_eq_none,
    List.lookup_eq_none_iff]
  intro entry member
  rw [bne_iff_ne, ne_comm]
  rcases List.mem_append.mp member with inRecord | inUnknown
  · obtain ⟨field, listed, named⟩ := Record.mem_entries.mp inRecord
    rw [named]
    exact model.key_ne_of_ne_reference other field (complete ▸ List.mem_map_of_mem listed)
  · exact absent entry inUnknown

/-! ## Parts are smaller -/

theorem sizeOf_lt_mapping
    {entries : List (String × Value)}
    {entry : String × Value}
    (listed : entry ∈ entries) :
    sizeOf entry.2 < sizeOf (Value.mapping entries) := by
  have inside : sizeOf entry.2 < sizeOf entries := Value.sizeOf_lt_of_entry listed
  simp only [Value.mapping.sizeOf_spec]
  omega

theorem sizeOf_lt_keyed
    {entries : List (Key × Value)}
    {entry : Key × Value}
    (listed : entry ∈ entries) :
    sizeOf entry.2 < sizeOf (Value.keyed entries) := by
  have inside := List.sizeOf_lt_of_mem listed
  obtain ⟨key, value⟩ := entry
  simp only [Prod.mk.sizeOf_spec, Value.keyed.sizeOf_spec] at inside ⊢
  omega

theorem mem_of_mem_textEntries
    {entries : List (Key × Value)}
    {entry : String × Value}
    (listed : entry ∈ Value.textEntries entries) :
    (Key.text entry.1, entry.2) ∈ entries := by
  fun_induction Value.textEntries entries with
  | case1 => contradiction
  | case2 content value rest hypothesis =>
      rcases List.mem_cons.mp listed with rfl | later
      · exact List.mem_cons_self
      · exact List.mem_cons_of_mem _ (hypothesis later)
  | case3 head rest _ hypothesis => exact List.mem_cons_of_mem _ (hypothesis listed)

theorem sizeOf_lt_named
    {value : Value}
    {entry : String × Value}
    (listed : entry ∈ namedEntries value) :
    sizeOf entry.2 < sizeOf value := by
  cases value with
  | mapping entries => exact sizeOf_lt_mapping listed
  | keyed entries => exact sizeOf_lt_keyed (mem_of_mem_textEntries listed)
  | _ => contradiction

theorem sizeOf_lt_list {items : List Value} {item : Value} (listed : item ∈ items) :
    sizeOf item < sizeOf (Value.list items) := by
  have inside := List.sizeOf_lt_of_mem listed
  simp only [Value.list.sizeOf_spec]
  omega

end Document
end ApiTypings
