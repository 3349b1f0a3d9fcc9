import ApiTypings.Proofs.Document.Checks
import ApiTypings.Proofs.TypeScript.Numeral

/-!
# Normal forms are fixed

The normal forms of a shape, as a predicate. What a check returns is normal, and a value
that is normal is its own normal form.
-/

namespace ApiTypings
namespace Document

/-! ## Keys that are numbers -/

theorem isPrefixOf_eq_false_of_isNumeral {text : List Char} (numeral : TypeScript.IsNumeral text) :
    ['x', '-'].isPrefixOf text = false := by
  obtain ⟨isWhole, _, _⟩ := numeral
  have digits := isWhole.allDigits
  rcases isWhole with rfl | ⟨c, rest, rfl, _⟩
  · rfl
  · have different : ('x' == c) = false := by
      rw [beq_eq_false_iff_ne]
      rintro rfl
      exact absurd (digits 'x' List.mem_cons_self) (by decide)
    simp [List.isPrefixOf, different]

theorem isExtension_toString (number : Int) : isExtension (toString number) = false := by
  unfold isExtension Text.startsWith
  cases number with
  | ofNat n =>
      apply isPrefixOf_eq_false_of_isNumeral
      have written : (toString (Int.ofNat n)).toList = Decimal.digits n := String.toList_ofList
      rw [written]
      exact TypeScript.isNumeral_digits n
  | negSucc n =>
      have written : (toString (Int.negSucc n)).toList = '-' :: (toString (n + 1)).toList :=
        String.toList_append
      rw [written]
      rfl

theorem isExtension_plainText (number : Float) :
    isExtension (Decimal.Layout.plain.text number) = false := by
  unfold isExtension Text.startsWith Decimal.Layout.text
  split
  · decide
  · rename_i negative _
    cases negative <;> decide
  · rename_i negative magnitude _
    cases negative with
    | true =>
        rw [if_pos rfl, String.toList_append]
        rfl
    | false =>
        rw [if_neg Bool.false_ne_true, String.empty_append, String.toList_ofList]
        apply isPrefixOf_eq_false_of_isNumeral
        exact TypeScript.isNumeral_shortest Decimal.Layout.plain magnitude

/-- A key that is no extension is none as a text. -/
theorem isExtension_of_checkText
    {key : Key}
    {content : String}
    (checked : checkText key.value = .ok content)
    (plain : isExtensionKey key = false) :
    isExtension content = false := by
  cases key with
  | null | bool | moment => contradiction
  | text given =>
      cases checked
      exact plain
  | float number =>
      cases checked
      exact isExtension_plainText number
  | int number =>
      unfold checkText Key.value at checked
      dsimp only at checked
      split at checked
      · rw [← Except.ok.inj checked]
        exact isExtension_toString number
      · exact absurd checked nofun

/-! ## Normal values -/

/-- The normal forms of a shape. -/
inductive Normal : Shape → Value → Prop
  | any (value : Value) : Normal .any value
  | text (content : String) : Normal .text (.text content)
  | strictText (content : String) : Normal .strictText (.text content)
  | flag (flag : Bool) : Normal .flag (.bool flag)
  | integer (number : Int) : Normal .integer (.int number)
  | number (number : Float) : Normal .number (.float number)
  | eitherFlag (flag : Bool) : Normal .flagOrNumber (.bool flag)
  | eitherNumber (number : Float) : Normal .flagOrNumber (.float number)
  | oneText (content : String) : Normal .textOrTexts (.text content)
  | texts (contents : List String) : Normal .textOrTexts (.list (contents.map .text))
  | textsOnly (contents : List String) : Normal .textsUnlessFlag (.list (contents.map .text))
  | absent (inner : Shape) : Normal (.optional inner) .null
  | present {inner : Shape} {value : Value} (normal : Normal inner value) :
      Normal (.optional inner) value
  | list {item : Shape} {items : List Value} (each : ∀ value ∈ items, Normal item value) :
      Normal (.list item) (.list items)
  | map {item : Shape} {entries : List (String × Value)}
      (each : ∀ entry ∈ entries, Normal item entry.2) :
      Normal (.map item) (.mapping entries)
  | extensibleMap {item : Shape} {entries : List (String × Value)}
      (plain : ∀ entry ∈ entries, isExtension entry.1 = false)
      (each : ∀ entry ∈ entries, Normal item entry.2) :
      Normal (.extensibleMap item) (.mapping entries)
  /-- All fields of the model are there that must be, and what is unknown follows. -/
  | model {model : Model} {record : Record} {unknown : List (String × Value)}
      (complete : record.map Prod.fst = model.fields)
      (needed : ∀ pair ∈ record, pair.1.required = true → pair.2 ≠ none)
      (each : ∀ pair ∈ record, ∀ value, pair.2 = some value → Normal pair.1.shape value)
      (foreign : Foreign record unknown)
      (policy : model.unknown = .kept ∨ unknown = []) :
      Normal (.model model) (.mapping (record.entries ++ unknown))
  | reference {model : Model} {value : Value} (normal : Normal (.model .reference) value) :
      Normal (.orReference model) value
  | object {model : Model} {entries : List (String × Value)}
      (normal : Normal (.model model) (.mapping entries))
      (inline : isReference entries = false) :
      Normal (.orReference model) (.mapping entries)
  | further (flag : Bool) : Normal .flagOrSchema (.bool flag)
  | furtherSchema {value : Value} (normal : Normal (.orReference .schema) value) :
      Normal .flagOrSchema value

theorem Normal.exists_mapping
    {model : Model}
    {value : Value}
    (normal : Normal (.orReference model) value) :
    ∃ entries, value = .mapping entries := by
  cases normal with
  | reference normal =>
      cases normal
      exact ⟨_, rfl⟩
  | object normal inline => exact ⟨_, rfl⟩

/-! ## Normal values are fixed -/

theorem checkTexts_map_text (index : Nat) (contents : List String) :
    checkTexts index (contents.map .text) = .ok contents := by
  induction contents generalizing index with
  | nil => rfl
  | cons content rest hypothesis =>
      rw [List.map_cons, checkTexts, hypothesis]
      rfl

theorem checkTextList_map_text (contents : List String) :
    checkTextList (.list (contents.map .text)) = .ok (.list (contents.map .text)) := by
  rw [checkTextList, checkTexts_map_text]
  rfl

theorem filter_of_plain
    {entries : List (String × Value)}
    (plain : ∀ entry ∈ entries, isExtension entry.1 = false) :
    (entries.filter fun entry => !isExtension entry.1) = entries := by
  rw [List.filter_eq_self]
  intro entry listed
  rw [plain entry listed]
  rfl

theorem forall₂_self_of_forall_mem
    {α : Type}
    {Related : α → α → Prop}
    {items : List α}
    (each : ∀ item ∈ items, Related item item) :
    List.Forall₂ Related items items := by
  rw [List.forall₂_same]
  exact each

theorem normalizeModel_record
    {model : Model}
    {record : Record}
    {unknown : List (String × Value)}
    (complete : record.map Prod.fst = model.fields)
    (needed : ∀ pair ∈ record, pair.1.required = true → pair.2 ≠ none)
    (each : ∀ pair ∈ record, ∀ value, pair.2 = some value →
      normalize pair.1.shape value = .ok value)
    (foreign : Foreign record unknown)
    (policy : model.unknown = .kept ∨ unknown = []) :
    normalizeModel model (record.entries ++ unknown) [] =
      .ok (.mapping (record.entries ++ unknown)) := by
  rw [normalizeModel_eq_ok_iff]
  refine ⟨record, unknown, complete, ?_, ?_, rfl⟩
  · intro pair listed
    rw [given?_record complete foreign listed, Field.check_eq_ok_iff]
    cases found : pair.2 with
    | none =>
        left
        refine ⟨rfl, rfl, ?_⟩
        rw [← Bool.not_eq_true]
        exact fun required => needed pair listed required found
    | some value => exact .inr ⟨pair.1.key, value, value, rfl, rfl, each pair listed value found⟩
  · unfold checkUnknown
    rw [unknownEntries_record complete foreign]
    rcases policy with kept | rfl
    · simp [kept]
    · cases model.unknown <;> rfl

/-- A value that is normal is its own normal form. -/
theorem Normal.normalize_eq {shape : Shape} {value : Value} (normal : Normal shape value) :
    normalize shape value = .ok value := by
  induction normal with
  | any value => rw [normalize]
  | text | strictText | flag | integer | number => rw [normalize]; rfl
  | eitherFlag | eitherNumber => rw [normalize]; rfl
  | oneText content =>
      rw [normalize]
      rfl
  | texts contents =>
      rw [normalize, checkTextOrTexts, checkTextList_map_text]
      rfl
  | textsOnly contents =>
      rw [normalize.eq_def]
      exact checkTextList_map_text contents
  | absent inner => rw [normalize]
  | @present inner value _ hypothesis =>
      rw [normalize_optional]
      split
      · rfl
      · exact hypothesis
  | list each hypothesis =>
      rw [normalize_list, normalizeItems_eq_ok_iff.mpr (forall₂_self_of_forall_mem hypothesis)]
      rfl
  | map each hypothesis =>
      have same := normalizeEntries_eq_ok_iff.mpr
        (forall₂_self_of_forall_mem fun entry listed => ⟨rfl, hypothesis entry listed⟩)
      rw [normalize_map, same]
      rfl
  | @extensibleMap item entries plain each hypothesis =>
      have same := normalizeEntries_eq_ok_iff.mpr
        (forall₂_self_of_forall_mem fun entry listed => ⟨rfl, hypothesis entry listed⟩)
      rw [normalize_extensibleMap, filter_of_plain plain, normalize_map, same]
      rfl
  | model complete needed each foreign policy hypothesis =>
      rw [normalize_model]
      exact normalizeModel_record complete needed hypothesis foreign policy
  | @reference model value normal hypothesis =>
      cases normal with
      | model complete needed each foreign policy =>
          rw [normalize_orReference, namedEntries, isReference_record complete needed,
            if_pos rfl, hypothesis]
          rfl
  | @object model entries normal inline hypothesis =>
      rw [normalize_orReference, namedEntries, inline, if_neg Bool.false_ne_true, hypothesis]
      rfl
  | further flag =>
      rw [normalize_flagOrSchema]
      rfl
  | @furtherSchema value normal hypothesis =>
      obtain ⟨entries, rfl⟩ := normal.exists_mapping
      rw [normalize_flagOrSchema, hypothesis]
      rfl

/-! ## Checked values are normal -/

namespace Shape

/-- Whether a shape is that of texts in whose place a flag may stand. -/
def isTextsUnlessFlag : Shape → Bool
  | .textsUnlessFlag => true
  | _ => false

/-- Whether a shape accepts its own normal forms: a flag in place of texts is read as
`null`, which must then be allowed, and a reference is no alternative to itself. -/
def isStable : Shape → Bool
  | .textsUnlessFlag => false
  | .optional inner => inner.isTextsUnlessFlag || inner.isStable
  | .list item | .map item | .extensibleMap item => item.isStable
  | .orReference other => decide (other ≠ .reference)
  | _ => true

end Shape

theorem Model.isStable_fields (model : Model) :
    ∀ field ∈ model.fields, field.shape.isStable = true := by
  cases model <;> decide

theorem exists_of_checkTextList
    {value normal : Value}
    (checked : checkTextList value = .ok normal) :
    ∃ contents : List String, normal = .list (contents.map .text) := by
  cases value with
  | list items =>
      obtain ⟨contents, _, rfl⟩ := exists_of_map_eq_ok checked
      exact ⟨contents, rfl⟩
  | _ => contradiction

/-- A flag in place of texts is read as `null`. -/
theorem normal_of_texts
    {shape : Shape}
    {value normal : Value}
    (texts : shape.isTextsUnlessFlag = true)
    (checked : normalize shape value = .ok normal) :
    Normal (.optional shape) normal := by
  cases shape with
  | textsUnlessFlag =>
      rw [normalize.eq_def] at checked
      dsimp only at checked
      split at checked
      · cases checked
        exact .absent _
      · obtain ⟨contents, rfl⟩ := exists_of_checkTextList checked
        exact .present (.textsOnly contents)
  | _ => contradiction

theorem normal_of_checkTextOrTexts
    {value normal : Value}
    (checked : checkTextOrTexts value = .ok normal) :
    Normal .textOrTexts normal := by
  unfold checkTextOrTexts at checked
  cases single : checkText value with
  | ok content =>
      rw [single] at checked
      cases checked
      exact .oneText content
  | error issues =>
      cases several : checkTextList value with
      | ok texts =>
          rw [single, several] at checked
          cases checked
          obtain ⟨contents, rfl⟩ := exists_of_checkTextList several
          exact .texts contents
      | error others =>
          rw [single, several] at checked
          contradiction

theorem normal_of_checkFlagOrNumber
    {value normal : Value}
    (checked : checkFlagOrNumber value = .ok normal) :
    Normal .flagOrNumber normal := by
  unfold checkFlagOrNumber at checked
  dsimp only at checked
  repeat' split at checked
  all_goals first
    | contradiction
    | (cases checked; exact .eitherFlag _)
    | (cases checked; exact .eitherNumber _)

/-- Whatever a stable shape makes of a value is normal. -/
def Settles (value : Value) : Prop :=
  ∀ shape : Shape, shape.isStable = true → ∀ result,
    normalize shape value = .ok result → Normal shape result

section Parts

variable {entries : List (String × Value)} (each : ∀ entry ∈ entries, Settles entry.2)

include each

/-- An object in normal form is normal if the values of its fields are. -/
theorem normal_of_normalizeModel
    {model : Model}
    {strays : List Key}
    {normal : Value}
    (checked : normalizeModel model entries strays = .ok normal) :
    Normal (.model model) normal ∧
      (isReference entries = false → model ≠ .reference →
        ∃ fixed, normal = .mapping fixed ∧ isReference fixed = false) := by
  obtain ⟨record, unknown, complete, fields, rest, rfl⟩ := normalizeModel_eq_ok_iff.mp checked
  have unknown_cases := checkUnknown_cases rest
  have foreign := foreign_of_checkUnknown complete fields rest
  constructor
  · refine .model complete ?_ ?_ foreign (unknown_cases.imp_left And.left)
    · intro pair listed required missing
      rcases Field.check_eq_ok_iff.mp (fields pair listed) with ⟨_, _, optional⟩ | found
      · rw [required] at optional
        contradiction
      · obtain ⟨_, _, _, _, given, _⟩ := found
        rw [missing] at given
        contradiction
    · intro pair listed value found
      rcases Field.check_eq_ok_iff.mp (fields pair listed) with ⟨_, missing, _⟩ | given
      · rw [found] at missing
        contradiction
      · obtain ⟨key, origin, result, isGiven, same, normalized⟩ := given
        rw [found] at same
        cases same
        obtain ⟨entry, _, here⟩ := Option.map_eq_some_iff.mp isGiven
        have inEntries : (key, origin) ∈ entries := here ▸ entry.property
        have inModel : pair.1 ∈ model.fields := complete ▸ List.mem_map_of_mem listed
        exact each _ inEntries _ (model.isStable_fields _ inModel) _ normalized
  · intro inline other
    refine ⟨_, rfl, isReference_record_eq_false complete other ?_⟩
    intro entry member
    rcases unknown_cases with ⟨_, rfl⟩ | rfl
    · rw [isReference_eq, Option.isSome_eq_false_iff, Option.isNone_iff_eq_none,
        List.lookup_eq_none_iff] at inline
      have different := inline entry (List.mem_of_mem_filter member)
      rw [bne_iff_ne] at different
      exact different.symm
    · contradiction

theorem normal_of_normalizeEntries
    {item : Shape}
    {normal : List (String × Value)}
    (stable : item.isStable = true)
    (checked : normalizeEntries item entries = .ok normal)
    {entry : String × Value}
    (listed : entry ∈ normal) :
    Normal item entry.2 ∧ ∃ given ∈ entries, entry.1 = given.1 := by
  obtain ⟨given, member, same, normalized⟩ :=
    exists_left_of_forall₂ (normalizeEntries_eq_ok_iff.mp checked) listed
  exact ⟨each given member item stable _ normalized, given, member, same⟩

end Parts

theorem normal_of_normalizeKeyed
    {item : Shape}
    {entries : List (Key × Value)}
    {normal : List (String × Value)}
    (each : ∀ entry ∈ entries, Settles entry.2)
    (stable : item.isStable = true)
    (checked : normalizeKeyed item entries = .ok normal)
    {entry : String × Value}
    (listed : entry ∈ normal) :
    Normal item entry.2 ∧ ∃ given ∈ entries, checkText given.1.value = .ok entry.1 := by
  rw [normalizeKeyed] at checked
  obtain ⟨pairs, collected, rfl⟩ := exists_of_map_eq_ok checked
  obtain ⟨given, member, spelled, normalized⟩ :=
    exists_left_of_forall₂ (forall₂_of_normalizePairs collected)
      (Entries.mem_of_mem_ofPairs listed)
  exact ⟨each given member item stable _ normalized, given, member, spelled⟩

/-! ## Every value settles -/

section Whole

variable {value : Value} (smaller : ∀ part : Value, sizeOf part < sizeOf value → Settles part)

include smaller

theorem normal_of_normalize_model
    {model : Model}
    {normal : Value}
    (checked : normalize (.model model) value = .ok normal) :
    Normal (.model model) normal ∧
      (isReference (namedEntries value) = false → model ≠ .reference →
        ∃ fixed, normal = .mapping fixed ∧ isReference fixed = false) := by
  obtain ⟨strays, normalized⟩ := exists_of_normalize_model checked
  exact normal_of_normalizeModel (fun entry listed => smaller _ (sizeOf_lt_named listed)) normalized

theorem normal_of_normalize_orReference
    {model : Model}
    {normal : Value}
    (other : model ≠ .reference)
    (checked : normalize (.orReference model) value = .ok normal) :
    Normal (.orReference model) normal := by
  rw [normalize_orReference] at checked
  split at checked
  · exact .reference (normal_of_normalize_model smaller (Checked.under_eq_ok_iff.mp checked)).1
  · rename_i inline
    have found := normal_of_normalize_model smaller (Checked.under_eq_ok_iff.mp checked)
    obtain ⟨fixed, rfl, stays⟩ := found.2 (Bool.eq_false_of_not_eq_true inline) other
    exact .object found.1 stays

theorem normal_of_normalize_map
    {item : Shape}
    {normal : Value}
    (stable : item.isStable = true)
    (checked : normalize (.map item) value = .ok normal) :
    Normal (.map item) normal := by
  rw [normalize.eq_def] at checked
  cases value with
  | mapping entries =>
      obtain ⟨found, normalized, rfl⟩ := exists_of_map_eq_ok checked
      exact .map fun entry listed => (normal_of_normalizeEntries
        (fun entry listed => smaller _ (sizeOf_lt_mapping listed)) stable normalized listed).1
  | keyed entries =>
      obtain ⟨found, normalized, rfl⟩ := exists_of_map_eq_ok checked
      exact .map fun entry listed => (normal_of_normalizeKeyed
        (fun entry listed => smaller _ (sizeOf_lt_keyed listed)) stable normalized listed).1
  | _ => contradiction

theorem normal_of_normalize_extensibleMap
    {item : Shape}
    {normal : Value}
    (stable : item.isStable = true)
    (checked : normalize (.extensibleMap item) value = .ok normal) :
    Normal (.extensibleMap item) normal := by
  rw [normalize.eq_def] at checked
  cases value with
  | null =>
      cases checked
      exact .extensibleMap nofun nofun
  | mapping entries =>
      obtain ⟨found, normalized, rfl⟩ := exists_of_map_eq_ok checked
      have parts (entry : String × Value) (listed : entry ∈ found) :=
        normal_of_normalizeEntries (fun entry listed =>
          smaller _ (sizeOf_lt_mapping (List.mem_of_mem_filter listed))) stable normalized listed
      refine .extensibleMap (fun entry listed => ?_) fun entry listed => (parts entry listed).1
      obtain ⟨given, member, same⟩ := (parts entry listed).2
      have plain := List.of_mem_filter member
      rwa [same, ← Bool.not_eq_true']
  | keyed entries =>
      obtain ⟨found, normalized, rfl⟩ := exists_of_map_eq_ok checked
      have parts (entry : String × Value) (listed : entry ∈ found) :=
        normal_of_normalizeKeyed (fun entry listed =>
          smaller _ (sizeOf_lt_keyed (List.mem_of_mem_filter listed))) stable normalized listed
      refine .extensibleMap (fun entry listed => ?_) fun entry listed => (parts entry listed).1
      obtain ⟨given, member, spelled⟩ := (parts entry listed).2
      have plain := List.of_mem_filter member
      rw [Bool.not_eq_true'] at plain
      exact isExtension_of_checkText spelled plain
  | _ => contradiction

theorem normal_of_normalize_list
    {item : Shape}
    {normal : Value}
    (stable : item.isStable = true)
    (checked : normalize (.list item) value = .ok normal) :
    Normal (.list item) normal := by
  rw [normalize.eq_def] at checked
  cases value with
  | list items =>
      obtain ⟨found, normalized, rfl⟩ := exists_of_map_eq_ok checked
      refine .list fun result listed => ?_
      obtain ⟨given, member, single⟩ :=
        exists_left_of_forall₂ (normalizeItems_eq_ok_iff.mp normalized) listed
      exact smaller given (sizeOf_lt_list member) item stable result single
  | _ => contradiction

end Whole

/-- Whatever a value is accepted for, the result is normal: by induction on the size of the
value, and on the shape where the value stays the same. -/
theorem settles (value : Value) : Settles value := by
  induction size : sizeOf value using Nat.strongRecOn generalizing value with
  | _ bound hypothesis =>
      have smaller (part : Value) (less : sizeOf part < sizeOf value) : Settles part :=
        hypothesis (sizeOf part) (size ▸ less) part rfl
      intro shape
      induction shape with
      | optional inner shorter =>
          intro stable result checked
          rw [normalize_optional] at checked
          split at checked
          · cases checked
            exact .absent inner
          · rcases Bool.or_eq_true_iff.mp stable with texts | stable
            · exact normal_of_texts texts checked
            · exact .present (shorter stable result checked)
      | list item =>
          intro stable result checked
          exact normal_of_normalize_list smaller stable checked
      | map item =>
          intro stable result checked
          exact normal_of_normalize_map smaller stable checked
      | extensibleMap item =>
          intro stable result checked
          exact normal_of_normalize_extensibleMap smaller stable checked
      | model model =>
          intro _ result checked
          exact (normal_of_normalize_model smaller checked).1
      | orReference model =>
          intro stable result checked
          exact normal_of_normalize_orReference smaller (of_decide_eq_true stable) checked
      | flagOrSchema =>
          intro _ result checked
          rw [normalize_flagOrSchema] at checked
          split at checked
          · cases checked
            exact .further _
          · split at checked
            · rename_i normalized
              cases checked
              exact .furtherSchema (normal_of_normalize_orReference smaller (by decide) normalized)
            · contradiction
      | textsUnlessFlag =>
          intro stable
          contradiction
      | any =>
          intro _ result _
          exact .any result
      | text | strictText | flag | integer | number =>
          intro _ result checked
          rw [normalize.eq_def] at checked
          obtain ⟨content, _, rfl⟩ := exists_of_map_eq_ok checked
          constructor
      | flagOrNumber =>
          intro _ result checked
          rw [normalize.eq_def] at checked
          exact normal_of_checkFlagOrNumber checked
      | textOrTexts =>
          intro _ result checked
          rw [normalize.eq_def] at checked
          exact normal_of_checkTextOrTexts checked

/-! ## Normal forms of references -/

theorem exists_reference_of_normalize
    {value normal : Value}
    (checked : normalize (.model .reference) value = .ok normal) :
    ∃ entries, normal = .mapping entries ∧ isReference entries = true := by
  have settled := settles value (.model .reference) rfl normal checked
  cases settled with
  | model complete needed => exact ⟨_, rfl, isReference_record complete needed⟩

theorem exists_object_of_normalize
    {model : Model}
    {value normal : Value}
    (checked : normalize (.model model) value = .ok normal)
    (other : model ≠ .reference)
    (inline : isReference (namedEntries value) = false) :
    ∃ entries, normal = .mapping entries ∧ isReference entries = false :=
  (normal_of_normalize_model (fun part _ => settles part) checked).2 inline other

/-- The normal form of a reference is one, and that of an object is none. -/
theorem isReference_of_normalize
    {model : Model}
    {value normal : Value}
    (other : model ≠ .reference)
    (checked : normalize (.orReference model) value = .ok normal) :
    isReference (namedEntries normal) = isReference (namedEntries value) := by
  rw [normalize_orReference] at checked
  split at checked
  · rename_i reference
    obtain ⟨entries, rfl, stays⟩ :=
      exists_reference_of_normalize (Checked.under_eq_ok_iff.mp checked)
    exact stays.trans reference.symm
  · rename_i inline
    have inline := Bool.eq_false_of_not_eq_true inline
    obtain ⟨entries, rfl, stays⟩ :=
      exists_object_of_normalize (Checked.under_eq_ok_iff.mp checked) other inline
    exact stays.trans inline.symm

end Document
end ApiTypings
