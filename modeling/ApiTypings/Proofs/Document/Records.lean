import ApiTypings.Document.Normalize
import ApiTypings.Proofs.Outcome

/-!
# Records

A record lists the fields of a model, each with its value if it has one. The fields that
the entries of an object give are checked one by one and make up a record. The entries of
a record, followed by such that give no field, give exactly the fields of the record.
-/

namespace ApiTypings

theorem Entries.map_val_find?
    {α : Type}
    (entries : List (String × α))
    (key : String) :
    (Entries.find? entries key).map Subtype.val = entries.lookup key := by
  induction entries with
  | nil => rfl
  | cons entry rest hypothesis =>
      unfold Entries.find?
      rw [List.lookup_cons]
      by_cases same : entry.1 = key
      · simp [same]
      · have different : (key == entry.1) = false := beq_eq_false_iff_ne.mpr (Ne.symm same)
        simp [same, different, ← hypothesis, Function.comp_def]

theorem Entries.mem_of_lookup
    {α : Type}
    {entries : List (String × α)}
    {key : String}
    {value : α}
    (found : entries.lookup key = some value) :
    (key, value) ∈ entries := by
  rw [← Entries.map_val_find?] at found
  obtain ⟨stored, _, rfl⟩ := Option.map_eq_some_iff.mp found
  exact stored.property

namespace Document

/-! ## Checks that succeed -/

namespace Checked

variable {α β : Type}

theorem under_eq_ok_iff {part : String} {checked : Checked α} {value : α} :
    checked.under part = .ok value ↔ checked = .ok value := by
  cases checked with
  | ok found => rfl
  | error issues => exact iff_of_false nofun nofun

theorem map_eq_ok_iff {checked : Checked α} {change : α → β} {result : β} :
    checked.map change = .ok result ↔ ∃ value, checked = .ok value ∧ change value = result := by
  constructor
  · exact exists_of_map_eq_ok
  · rintro ⟨value, rfl, rfl⟩
    rfl

theorem both_eq_ok_iff {first : Checked α} {second : Checked β} {pair : α × β} :
    both first second = .ok pair ↔ first = .ok pair.1 ∧ second = .ok pair.2 := by
  cases first with
  | error issues => exact iff_of_false nofun nofun
  | ok value =>
      cases second with
      | error issues => exact iff_of_false nofun nofun
      | ok other => simp [both, Prod.ext_iff]

theorem cons_eq_ok_iff {first : Checked α} {rest : Checked (List α)} {results : List α} :
    cons first rest = .ok results ↔
      ∃ value values, first = .ok value ∧ rest = .ok values ∧ results = value :: values := by
  unfold cons
  simp only [map_eq_ok_iff, both_eq_ok_iff, Prod.exists]
  grind

end Checked

/-! ## The entries that give fields -/

/-- The entry that gives a field, if there is one. -/
def Field.given? (field : Field) (entries : List (String × Value)) : Option (String × Value) :=
  (field.find? entries).map Subtype.val

theorem Field.given?_eq (field : Field) (entries : List (String × Value)) :
    field.given? entries =
      ((entries.lookup field.key).map fun value => (field.key, value)).or
        ((entries.lookup field.spelling).map fun value => (field.spelling, value)) := by
  rw [← Entries.map_val_find?, ← Entries.map_val_find?]
  unfold Field.given? Field.find?
  cases Entries.find? entries field.key with
  | some found => rfl
  | none => cases Entries.find? entries field.spelling <;> rfl

theorem usedKeys_eq (fields : List Field) (entries : List (String × Value)) :
    usedKeys fields entries =
      fields.filterMap fun field => (field.given? entries).map Prod.fst := by
  unfold usedKeys Field.given?
  simp only [Option.map_map, Function.comp_def]

theorem isSome_lookup_of_mem
    {α : Type}
    {entries : List (String × α)}
    {entry : String × α}
    (listed : entry ∈ entries) :
    ∃ value, entries.lookup entry.1 = some value := by
  apply Option.ne_none_iff_exists'.mp
  intro missing
  exact absurd (List.lookup_eq_none_iff.mp missing entry listed) (by simp)

/-- The check of a field, given the entry for it. -/
def Field.check (field : Field) (given : Option (String × Value)) : Checked (Option Value) :=
  match given with
  | some (key, value) => ((normalize field.shape value).under key).map some
  | none => if field.required then (Checked.fail .missing).under field.key else .ok none

/-- A value that is found is the normal form of the one that is given. -/
theorem Field.check_eq_ok_iff {field : Field} {given : Option (String × Value)} {found : Option Value} :
    field.check given = .ok found ↔
      (given = none ∧ found = none ∧ field.required = false) ∨
        ∃ key value normal, given = some (key, value) ∧ found = some normal ∧
          normalize field.shape value = .ok normal := by
  unfold Field.check
  cases given with
  | none =>
      cases field.required with
      | true => exact iff_of_false nofun (by simp)
      | false => simp [eq_comm]
  | some entry =>
      obtain ⟨key, value⟩ := entry
      simp only [Checked.map_eq_ok_iff, Checked.under_eq_ok_iff]
      grind

theorem normalizeFields_cons (field : Field) (rest : List Field) (entries : List (String × Value)) :
    normalizeFields (field :: rest) entries =
      (Checked.both (field.check (field.given? entries)) (normalizeFields rest entries)).map
        fun pair => (pair.1.map fun value => (field.key, value)).toList ++ pair.2 := by
  rw [normalizeFields]
  unfold Field.given? Field.check
  cases field.find? entries with
  | some found =>
      dsimp only [Option.map_some]
      cases normalize field.shape found.val.2 <;> cases normalizeFields rest entries <;> rfl
  | none =>
      dsimp only [Option.map_none]
      cases field.required <;> cases normalizeFields rest entries <;> rfl

/-! ## Records -/

/-- Fields, each with its value if it has one. -/
abbrev Record : Type := List (Field × Option Value)

namespace Record

/-- The entries of a record: the fields that have a value, under their keys. -/
def entries (record : Record) : List (String × Value) :=
  record.filterMap fun pair => pair.2.map fun value => (pair.1.key, value)

@[simp] theorem entries_nil : entries [] = [] := rfl

theorem map_fst_entries (record : Record) :
    record.entries.map Prod.fst =
      record.filterMap fun pair => pair.2.map fun _ => pair.1.key := by
  simp [entries, List.map_filterMap, Function.comp_def]

@[simp] theorem entries_cons (pair : Field × Option Value) (record : Record) :
    entries (pair :: record) =
      (pair.2.map fun value => (pair.1.key, value)).toList ++ entries record := by
  obtain ⟨field, found⟩ := pair
  cases found <;> rfl

theorem mem_entries {record : Record} {entry : String × Value} :
    entry ∈ record.entries ↔
      ∃ field, (field, some entry.2) ∈ record ∧ entry.1 = field.key := by
  simp only [entries, List.mem_filterMap, Option.map_eq_some_iff, Prod.exists]
  grind

/-- The fields of a record are found by their keys. -/
theorem lookup_entries
    {record : Record}
    (distinct : (record.map fun pair => pair.1.key).Nodup)
    {pair : Field × Option Value}
    (listed : pair ∈ record) :
    record.entries.lookup pair.1.key = pair.2 := by
  induction record with
  | nil => contradiction
  | cons head rest hypothesis =>
      rw [List.map_cons, List.nodup_cons] at distinct
      have absent (found : Field × Option Value) (later : found ∈ rest) :
          found.1.key ≠ head.1.key := by
        intro same
        exact distinct.1 (same ▸ List.mem_map_of_mem later)
      rw [entries_cons, List.lookup_append]
      rcases List.mem_cons.mp listed with rfl | later
      · cases given : pair.2 with
        | some value => simp
        | none =>
            have missing : (entries rest).lookup pair.1.key = none := by
              rw [List.lookup_eq_none_iff]
              intro entry member
              obtain ⟨field, inRest, named⟩ := mem_entries.mp member
              rw [named, bne_iff_ne]
              exact (absent _ inRest).symm
            simpa using missing
      · rw [hypothesis distinct.2 later]
        have different : (pair.1.key == head.1.key) = false :=
          beq_eq_false_iff_ne.mpr (absent pair later)
        cases head.2 with
        | none => rfl
        | some value => simp [List.lookup_cons, different]

end Record

/-- Fields are checked one by one. -/
theorem normalizeFields_eq_ok_iff
    {fields : List Field}
    {entries normal : List (String × Value)} :
    normalizeFields fields entries = .ok normal ↔
      ∃ record : Record, record.map Prod.fst = fields ∧ record.entries = normal ∧
        ∀ pair ∈ record, pair.1.check (pair.1.given? entries) = .ok pair.2 := by
  induction fields generalizing normal with
  | nil =>
      rw [normalizeFields]
      constructor
      · rintro ⟨⟩
        exact ⟨[], rfl, rfl, by simp⟩
      · rintro ⟨record, fields, rfl, _⟩
        rw [List.map_eq_nil_iff.mp fields]
        rfl
  | cons field rest hypothesis =>
      rw [normalizeFields_cons, Checked.map_eq_ok_iff]
      constructor
      · rintro ⟨⟨found, others⟩, checked, rfl⟩
        obtain ⟨first, several⟩ := Checked.both_eq_ok_iff.mp checked
        obtain ⟨record, rfl, same, each⟩ := hypothesis.mp several
        refine ⟨(field, found) :: record, rfl, ?_, List.forall_mem_cons.mpr ⟨first, each⟩⟩
        rw [Record.entries_cons, same]
      · rintro ⟨record, fields, rfl, each⟩
        obtain ⟨⟨_, found⟩, others, rfl, rfl, rfl⟩ := List.map_eq_cons_iff.mp fields
        obtain ⟨first, rest⟩ := List.forall_mem_cons.mp each
        refine ⟨(found, Record.entries others), ?_, (Record.entries_cons _ _).symm⟩
        exact Checked.both_eq_ok_iff.mpr ⟨first, hypothesis.mpr ⟨others, rfl, rfl, rest⟩⟩

/-! ## Entries that give no field -/

/-- Entries give no field of a record: none has the key of a field, and the second spelling
of a field is found only where the field has a value. -/
def Foreign (record : Record) (unknown : List (String × Value)) : Prop :=
  ∀ entry ∈ unknown, ∀ pair ∈ record,
    entry.1 ≠ pair.1.key ∧ (entry.1 = pair.1.spelling → pair.2 ≠ none)

/-- What a model does not know gives no field. -/
theorem foreign_unknownEntries
    {record : Record}
    {entries : List (String × Value)}
    (each : ∀ pair ∈ record, pair.1.check (pair.1.given? entries) = .ok pair.2) :
    Foreign record (unknownEntries (record.map Prod.fst) entries) := by
  intro entry member pair listed
  simp only [unknownEntries, usedKeys_eq, List.mem_filter, Bool.not_eq_true',
    List.contains_eq_mem, decide_eq_false_iff_not, List.mem_filterMap, List.mem_map,
    Option.map_eq_some_iff] at member
  obtain ⟨inEntries, unused⟩ := member
  obtain ⟨value, found⟩ := isSome_lookup_of_mem inEntries
  constructor
  · intro same
    apply unused
    refine ⟨pair.1, ⟨pair, listed, rfl⟩, (pair.1.key, value), ?_, same.symm⟩
    rw [Field.given?_eq, ← same, found]
    rfl
  · intro same missing
    have outcome := Field.check_eq_ok_iff.mp (each pair listed)
    rw [Field.given?_eq, ← same, found, missing] at outcome
    simp at outcome

namespace Model

theorem nodup_keys (model : Model) : (model.fields.map Field.key).Nodup := by
  cases model <;> decide

/-- The second spelling of a field is the key of no other field. -/
theorem key_eq_of_spelling (model : Model) :
    ∀ field ∈ model.fields, ∀ other ∈ model.fields,
      field.spelling = other.key → field.key = other.key := by
  cases model <;> decide

end Model

section Given

variable
    {model : Model}
    {record : Record}
    {unknown : List (String × Value)}
    (complete : record.map Prod.fst = model.fields)

include complete

theorem Record.nodup_keys : (record.map fun pair => pair.1.key).Nodup := by
  have distinct := model.nodup_keys
  rw [← complete, List.map_map] at distinct
  exact distinct

/-- A field is given by its value in the record. -/
theorem given?_record
    (foreign : Foreign record unknown)
    {pair : Field × Option Value}
    (listed : pair ∈ record) :
    pair.1.given? (record.entries ++ unknown) = pair.2.map fun value => (pair.1.key, value) := by
  have distinct := Record.nodup_keys complete
  have inModel (other : Field × Option Value) (member : other ∈ record) :
      other.1 ∈ model.fields := complete ▸ List.mem_map_of_mem member
  have unknownKey : unknown.lookup pair.1.key = none := by
    rw [List.lookup_eq_none_iff]
    intro entry member
    rw [bne_iff_ne]
    exact (foreign entry member pair listed).1.symm
  rw [Field.given?_eq, List.lookup_append, Record.lookup_entries distinct listed, unknownKey]
  cases given : pair.2 with
  | some value => rfl
  | none =>
      have noField : record.entries.lookup pair.1.spelling = none := by
        rw [List.lookup_eq_none_iff]
        intro entry member
        rw [bne_iff_ne]
        intro same
        obtain ⟨field, inRecord, named⟩ := Record.mem_entries.mp member
        have sameKey : pair.1.key = field.key := model.key_eq_of_spelling _ (inModel pair listed)
          _ (inModel _ inRecord) (same.trans named)
        have found := Record.lookup_entries distinct inRecord
        rw [← sameKey, Record.lookup_entries distinct listed, given] at found
        contradiction
      have noUnknown : unknown.lookup pair.1.spelling = none := by
        rw [List.lookup_eq_none_iff]
        intro entry member
        rw [bne_iff_ne]
        intro same
        exact (foreign entry member pair listed).2 same.symm given
      rw [List.lookup_append, noField, noUnknown]
      rfl

/-- What stands behind the entries of a record is what the model does not know. -/
theorem unknownEntries_record (foreign : Foreign record unknown) :
    unknownEntries model.fields (record.entries ++ unknown) = unknown := by
  have used : usedKeys model.fields (record.entries ++ unknown) = record.entries.map Prod.fst := by
    rw [usedKeys_eq, ← complete, List.filterMap_map, Record.map_fst_entries]
    apply List.filterMap_congr
    intro pair listed
    rw [Function.comp_apply, given?_record complete foreign listed, Option.map_map]
    rfl
  unfold unknownEntries
  dsimp only
  rw [used, List.filter_append, List.filter_eq_nil_iff.mpr, List.nil_append, List.filter_eq_self]
  · intro entry member
    simp only [Bool.not_eq_true', List.contains_eq_mem, decide_eq_false_iff_not, List.mem_map]
    rintro ⟨other, inRecord, same⟩
    obtain ⟨field, listed, named⟩ := Record.mem_entries.mp inRecord
    exact (foreign entry member _ listed).1 (same.symm.trans named)
  · intro entry member
    simp only [Bool.not_eq_true', List.contains_eq_mem, decide_eq_false_iff_not, not_not]
    exact List.mem_map_of_mem member

end Given

end Document
end ApiTypings
