import ApiTypings.Proofs.Component.Chains
import ApiTypings.Proofs.Component.Pointers
import ApiTypings.Proofs.Text.Encodings

/-!
# Resolution of references

A reference leads to a component exactly if it spells the pointer of one. All standard
encodings of a name spell its pointer. A table of all components by canonical spellings
holds what the sections hold, because no two pointers have the same spelling.
-/

namespace ApiTypings
namespace Component

open Document Text

/-! ## Stored components -/

/-- The component that a document stores under the name of a pointer, in its section. -/
def stored (description : Description) (pointer : Pointer) : Option (OrReference Target) :=
  let components := description.components
  match pointer.ofSection with
  | .schemas => (components.schemas.lookup pointer.name).map (OrReference.map .schema)
  | .responses => (components.responses.lookup pointer.name).map (OrReference.map .response)
  | .parameters => (components.parameters.lookup pointer.name).map (OrReference.map .parameter)
  | .requestBodies =>
      (components.requestBodies.lookup pointer.name).map (OrReference.map .requestBody)

theorem lookup_map_snd
    {α β : Type}
    (change : α → β)
    (entries : List (String × α))
    (key : String) :
    (entries.map fun entry => (entry.1, change entry.2)).lookup key =
      (entries.lookup key).map change := by
  induction entries with
  | nil => rfl
  | cons entry rest hypothesis =>
      rw [List.map_cons, List.lookup_cons, List.lookup_cons, hypothesis]
      cases key == entry.1 <;> rfl

namespace Catalog

theorem get?_eq_stored (catalog : Catalog) (pointer : Pointer) :
    catalog.get? pointer = stored catalog.description pointer := by
  obtain ⟨ofSection, name⟩ := pointer
  cases ofSection <;> exact lookup_map_snd _ _ name

/-- One table of the components of all sections, by their canonical spellings. -/
def index (catalog : Catalog) : List (String × OrReference Target) :=
  Section.all.flatMap fun ofSection =>
    (catalog.entries ofSection).map fun entry => (Pointer.text ⟨ofSection, entry.1⟩, entry.2)

/-- Under the spelling of a pointer there are entries of its section only. -/
theorem lookup_map_text
    {α : Type}
    (pointer : Pointer)
    (ofSection : Section)
    (entries : List (String × α)) :
    (entries.map fun entry => (Pointer.text ⟨ofSection, entry.1⟩, entry.2)).lookup pointer.text =
      if pointer.ofSection = ofSection then entries.lookup pointer.name else none := by
  induction entries with
  | nil => simp
  | cons entry rest hypothesis =>
      have same : (pointer.text == Pointer.text ⟨ofSection, entry.1⟩) =
          (decide (pointer.ofSection = ofSection) && pointer.name == entry.1) := by
        obtain ⟨ownSection, name⟩ := pointer
        rw [Bool.eq_iff_iff, beq_iff_eq, Pointer.text_injective.eq_iff]
        simp
      rw [List.map_cons, List.lookup_cons, same, hypothesis, List.lookup_cons]
      by_cases own : pointer.ofSection = ofSection
      · simp [own]
      · simp [own]

/-- The table holds the component of a pointer under the spelling of the pointer. -/
theorem lookup_index (catalog : Catalog) (pointer : Pointer) :
    catalog.index.lookup pointer.text = catalog.get? pointer := by
  have among (sections : List Section) :
      (sections.flatMap fun ofSection => (catalog.entries ofSection).map fun entry =>
          (Pointer.text ⟨ofSection, entry.1⟩, entry.2)).lookup pointer.text =
        if pointer.ofSection ∈ sections then catalog.get? pointer else none := by
    induction sections with
    | nil => rfl
    | cons first rest hypothesis =>
        rw [List.flatMap_cons, List.lookup_append, lookup_map_text, hypothesis, get?]
        by_cases own : pointer.ofSection = first
        · subst own
          by_cases again : pointer.ofSection ∈ rest <;> simp [again]
        · simp [own]
  rw [index, among, if_pos (mem_all _)]

/-! ## References -/

theorem resolve_of_parse_error
    {catalog : Catalog}
    {reference : String}
    {problem : PointerProblem}
    (failed : Pointer.parse reference = .error problem)
    (location : Option String) :
    catalog.resolve reference location = .error ⟨reference, .spelling problem, location⟩ := by
  simp only [resolve, parse, failed, bind, Except.bind]

theorem resolve_of_get?_eq_none
    {catalog : Catalog}
    {reference : String}
    {pointer : Pointer}
    (parsed : Pointer.parse reference = .ok pointer)
    (missing : catalog.get? pointer = none)
    (location : Option String) :
    catalog.resolve reference location =
      .error ⟨reference, .missing pointer (catalog.available pointer.ofSection), location⟩ := by
  simp only [resolve, parse, parsed, find, missing, bind, Except.bind]

/-- There are three ways to resolve a reference. -/
theorem resolve_cases (catalog : Catalog) (reference : String) (location : Option String) :
    (∃ problem, Pointer.parse reference = .error problem ∧
      catalog.resolve reference location = .error ⟨reference, .spelling problem, location⟩) ∨
    (∃ pointer, Pointer.parse reference = .ok pointer ∧ catalog.get? pointer = none ∧
      catalog.resolve reference location =
        .error ⟨reference, .missing pointer (catalog.available pointer.ofSection), location⟩) ∨
    (∃ pointer component, Pointer.parse reference = .ok pointer ∧
      catalog.get? pointer = some component ∧
      catalog.resolve reference location = .ok (pointer, component)) := by
  cases parsed : Pointer.parse reference with
  | error problem => exact .inl ⟨problem, rfl, resolve_of_parse_error parsed location⟩
  | ok pointer =>
      cases found : catalog.get? pointer with
      | none => exact .inr (.inl ⟨pointer, rfl, found, resolve_of_get?_eq_none parsed found location⟩)
      | some component =>
          exact .inr (.inr ⟨pointer, component, rfl, found, resolve_eq_ok_iff.mpr ⟨parsed, found⟩⟩)

/-- A reference is of a kind that is not supported if it spells no pointer. -/
theorem unsupported_iff {catalog : Catalog} {reference : String} {location : Option String} :
    (∃ error, catalog.resolve reference location = .error error ∧
      error.problem.isUnresolved = false) ↔
      ¬ ∃ pointer, Pointer.parse reference = .ok pointer := by
  rcases catalog.resolve_cases reference location with
    ⟨problem, failed, resolved⟩ | ⟨pointer, parsed, _, resolved⟩ |
    ⟨pointer, component, parsed, _, resolved⟩
  · rw [resolved, failed]
    simp [Problem.isUnresolved]
  · rw [resolved, parsed]
    simp [Problem.isUnresolved]
  · rw [resolved, parsed]
    simp

/-- A reference is unresolved if it spells the pointer of no component. -/
theorem unresolved_iff {catalog : Catalog} {reference : String} {location : Option String} :
    (∃ error, catalog.resolve reference location = .error error ∧
      error.problem.isUnresolved = true ∧ error.reference = reference) ↔
      ∃ pointer, Pointer.parse reference = .ok pointer ∧ catalog.get? pointer = none := by
  rcases catalog.resolve_cases reference location with
    ⟨problem, failed, resolved⟩ | ⟨pointer, parsed, missing, resolved⟩ |
    ⟨pointer, component, parsed, found, resolved⟩
  · rw [resolved, failed]
    simp [Problem.isUnresolved]
  · rw [resolved, parsed]
    simp [Problem.isUnresolved, missing]
  · rw [resolved, parsed]
    simp [found]

/-- A reference leads to what the document stores under the pointer that it spells. If it
spells no pointer, its spelling is the problem, and it is not supported; if it spells the pointer
of no component, the component is missing, and it is unresolved. A table of all sections by
canonical spellings holds the same components. -/
theorem resolve_is_lookup (catalog : Catalog) (reference : String) (location : Option String) :
    (∀ pointer component,
      catalog.resolve reference location = .ok (pointer, component) ↔
        Pointer.Spelled reference pointer ∧
          stored catalog.description pointer = some component) ∧
    ((∃ problem,
      catalog.resolve reference location = .error ⟨reference, .spelling problem, location⟩) ↔
        ¬ ∃ pointer, Pointer.Spelled reference pointer) ∧
    (∀ pointer,
      catalog.resolve reference location =
          .error ⟨reference, .missing pointer (catalog.available pointer.ofSection), location⟩ ↔
        Pointer.Spelled reference pointer ∧ stored catalog.description pointer = none) ∧
    ((∃ error, catalog.resolve reference location = .error error ∧
      error.problem.isUnresolved = false) ↔
        ¬ ∃ pointer, Pointer.Spelled reference pointer) ∧
    ((∃ error, catalog.resolve reference location = .error error ∧
      error.problem.isUnresolved = true ∧ error.reference = reference) ↔
        ∃ pointer, Pointer.Spelled reference pointer ∧
          stored catalog.description pointer = none) ∧
    (∀ pointer : Pointer,
      catalog.index.lookup pointer.text = stored catalog.description pointer) := by
  simp only [← Pointer.parse_eq_ok_iff, ← get?_eq_stored]
  refine ⟨fun _ _ => resolve_eq_ok_iff, ⟨?_, ?_⟩, fun pointer => ⟨?_, ?_⟩, unsupported_iff,
    unresolved_iff, lookup_index catalog⟩
  · rintro ⟨problem, failed⟩ ⟨pointer, parsed⟩
    rcases catalog.resolve_cases reference location with
      ⟨_, spelled, _⟩ | ⟨_, _, _, resolved⟩ | ⟨_, _, _, _, resolved⟩
    · rw [parsed] at spelled
      cases spelled
    · rw [resolved] at failed
      cases failed
    · rw [resolved] at failed
      cases failed
  · intro unspelled
    cases parsed : Pointer.parse reference with
    | error problem => exact ⟨problem, resolve_of_parse_error parsed location⟩
    | ok pointer => exact absurd ⟨pointer, parsed⟩ unspelled
  · intro failed
    rcases catalog.resolve_cases reference location with
      ⟨_, _, resolved⟩ | ⟨_, parsed, missing, resolved⟩ | ⟨_, _, _, _, resolved⟩
    · rw [resolved] at failed
      cases failed
    · rw [resolved] at failed
      cases failed
      exact ⟨parsed, missing⟩
    · rw [resolved] at failed
      cases failed
  · rintro ⟨parsed, missing⟩
    exact resolve_of_get?_eq_none parsed missing location

/-! ## Encodings of names -/

/-- All encodings of the segment of a name spell the pointer of the name. -/
theorem spelled_of_encodes
    (ofSection : Section)
    {name : String}
    (named : name ≠ "")
    {written : List Char}
    (encodes : Encodes (encodeSegment name.toList) written) :
    Pointer.Spelled (spelling ofSection written) ⟨ofSection, name⟩ := by
  have filled : written ≠ [] := by
    apply encodes.ne_nil
    apply encodeSegment_ne_nil
    intro empty
    exact named (String.toList_injective empty)
  have single : '/' ∉ written := encodes.not_mem (not_mem_encodeSegment _)
  have decoded : String.ofList (decodeSegment written) = name := by
    rw [decodeSegment, percentDecode_of_encodes encodes, unescapeTilde_encodeSegment,
      String.ofList_toList]
  have spelled := Pointer.Spelled.mk ofSection filled single
  rwa [decoded] at spelled

/-- A name that is escaped as a segment, and then written with any choice of percent
escapes, is read as the name. -/
theorem parse_encoded_name
    (ofSection : Section)
    {name : String}
    (named : name ≠ "")
    {written : List Char}
    (encodes : Encodes (encodeSegment name.toList) written)
    (location : Option String) :
    parse (spelling ofSection written) location = .ok ⟨ofSection, name⟩ :=
  parse_eq_ok_iff.mpr (spelled_of_encodes ofSection named encodes).parse

/-- A name with the marks of both kinds of escapes and a character of two bytes, which is
written in both ways. -/
theorem parse_encoded_name_of_mixed :
    let name := "a/~%éé"
    let written := "a%7e1~%30%25%C3%a9é".toList
    name ≠ "" ∧ Encodes (encodeSegment name.toList) written ∧
      parse "#/components/responses/a%7e1~%30%25%C3%a9é" none = .ok ⟨.responses, name⟩ := by
  intro name written
  have encodes : Encodes (encodeSegment name.toList) written := by
    have segment : encodeSegment name.toList = ['a', '~', '1', '~', '0', '%', 'é', 'é'] := by
      decide
    rw [segment]
    refine .verbatim (by decide) ?_
    refine @Encodes.escaped '~' _ ['%', '7', 'e'] _ (.cons (.inl rfl) (.inl rfl) .nil) ?_
    refine .verbatim (by decide) (.verbatim (by decide) ?_)
    refine @Encodes.escaped '0' _ ['%', '3', '0'] _ (.cons (.inl rfl) (.inl rfl) .nil) ?_
    refine @Encodes.escaped '%' _ ['%', '2', '5'] _ (.cons (.inl rfl) (.inl rfl) .nil) ?_
    refine @Encodes.escaped 'é' _ ['%', 'C', '3', '%', 'a', '9'] _
      (.cons (.inr rfl) (.inl rfl) (.cons (.inl rfl) (.inl rfl) .nil)) ?_
    exact .verbatim (by decide) .nil
  exact ⟨by decide, encodes, parse_encoded_name .responses (by decide) encodes none⟩

end Catalog

end Component
end ApiTypings
