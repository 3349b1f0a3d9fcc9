import ApiTypings.Proofs.Component.Naming
import ApiTypings.Proofs.Component.Outline
import ApiTypings.Proofs.Typing.Units

/-!
# Closed documents

A document is closed if each of its references leads to a component of the kind that is
expected where the reference stands. The module of a closed document is written,
however its schemas contradict or contain each other, unless a value or a length stands
in the way.
-/

namespace ApiTypings
namespace Component

/-- The characters of the names of components: letters, digits, and some signs. -/
def isComponentChar (c : Char) : Bool :=
  c.isAlphanum || c == '.' || c == '_' || c == '-'

/-- The names that a component may have. -/
def isComponentName (name : String) : Bool :=
  name != "" && name.toList.all isComponentChar

/-- There is no percent escape in the name of a component. -/
theorem hasEscape_of_isComponentName {name : String} (valid : isComponentName name = true) :
    Text.hasEscape name.toList = false := by
  simp only [isComponentName, Bool.and_eq_true] at valid
  have chars := valid.2
  generalize name.toList = text at chars
  induction text with
  | nil => rfl
  | cons c rest hypothesis =>
      rw [List.all_cons, Bool.and_eq_true] at chars
      have noSign : c ≠ '%' := by
        rintro rfl
        exact absurd chars.1 (by decide)
      rw [Text.hasEscape_cons_of_ne noSign]
      exact hypothesis chars.2

end Component

namespace Typing

open Component Document TypeScript

/-- All references where objects of a kind are expected lead to such objects. -/
def LeadsAll {α : Type} (catalog : Catalog) (kind : α → Target) (nodes : List (OrReference α)) :
    Prop :=
  ∀ reference, .reference reference ∈ nodes → ∃ object, Leads catalog reference.target (kind object)

/-- Each reference of a document leads to a component of the kind that is expected. -/
structure Closed (description : Description) : Prop where
  /-- Components of all sections have valid names. -/
  names : ∀ ofSection,
    ∀ name ∈ Entries.keys ((Catalog.ofDescription description).entries ofSection),
      isComponentName name = true
  /-- References in schema position spell component schemas. -/
  schemas : ∀ node ∈ description.nodes, ∀ target ∈ Node.references node,
    ∃ name ∈ Entries.keys description.components.schemas,
      Pointer.parse target = .ok ⟨.schemas, name⟩
  parameters : LeadsAll (.ofDescription description) .parameter description.parameterNodes
  requestBodies : LeadsAll (.ofDescription description) .requestBody description.requestBodyNodes
  responses : LeadsAll (.ofDescription description) .response description.responseNodes

/-- There are no references in a document. -/
structure WithoutReferences (description : Description) : Prop where
  schemas : ∀ node ∈ description.nodes, Node.references node = []
  parameters : ∀ reference, .reference reference ∉ description.parameterNodes
  requestBodies : ∀ reference, .reference reference ∉ description.requestBodyNodes
  responses : ∀ reference, .reference reference ∉ description.responseNodes

/-- What the types of a catalog need of its references. -/
structure Linked (catalog : Catalog) : Prop where
  schemas : BindsAll catalog
  parameters : LeadsAll catalog .parameter catalog.description.parameterNodes
  requestBodies : LeadsAll catalog .requestBody catalog.description.requestBodyNodes
  responses : LeadsAll catalog .response catalog.description.responseNodes

theorem Closed.linked {description : Description} (closed : Closed description) :
    Linked (.ofDescription description) := by
  refine ⟨?_, closed.parameters, closed.requestBodies, closed.responses⟩
  intro node listed target occurs
  obtain ⟨key, inKeys, parsed⟩ := closed.schemas node listed target occurs
  obtain ⟨name, named⟩ := Catalog.exists_lookup_of_mem_keys inKeys
  have inCatalog : key ∈ Entries.keys
      (Catalog.ofDescription description).description.components.schemas := inKeys
  obtain ⟨component, inSchemas, found⟩ := Catalog.exists_get?_of_mem_keys inCatalog
  have valid : isComponentName key = true := by
    apply closed.names .schemas
    rw [Catalog.keys_schemas]
    exact inCatalog
  have undecoded : Pointer.decoded ⟨.schemas, key⟩ = ⟨.schemas, key⟩ :=
    (Pointer.decoded_eq_iff _).mpr (hasEscape_of_isComponentName valid)
  refine ⟨⟨.schemas, key⟩, name, parsed, ?_, component, inSchemas, ?_⟩
  · simp only [Catalog.declaredName?, if_true, named]
  · rw [undecoded]
    exact found

theorem WithoutReferences.linked
    {description : Description}
    (without : WithoutReferences description) :
    Linked (.ofDescription description) where
  schemas := by
    intro node listed target occurs
    rw [without.schemas node listed] at occurs
    contradiction
  parameters reference listed := absurd listed (without.parameters reference)
  requestBodies reference listed := absurd listed (without.requestBodies reference)
  responses reference listed := absurd listed (without.responses reference)

/-! ## Resolution -/

variable {context : Context}

/-- A node is resolved if references lead to objects that are picked. -/
theorem exists_resolveAs
    {α : Type}
    {kind : α → Target}
    {nodes : List (OrReference α)}
    (leads : LeadsAll context.catalog kind nodes)
    {pick : Target → Option α}
    (picks : ∀ object, pick (kind object) = some object)
    {node : OrReference α}
    (listed : node ∈ nodes)
    (problem : Problem) :
    ∃ object, resolveAs context problem pick node = .ok object := by
  cases node with
  | inline object => exact ⟨object, rfl⟩
  | reference reference =>
      obtain ⟨object, led⟩ := leads reference listed
      obtain ⟨pointer, followed⟩ := led.follow context.location
      refine ⟨object, ?_⟩
      simp only [resolveAs, followed, picks]

/-- The units of a linked document stop at obstacles only. -/
theorem Linked.unitStopping (linked : Linked context.catalog) :
    UnitStopping context context.Obstacle where
  obstacle interruption := interruption
  typed listed _ :=
    (stopping_settled linked.schemas).typeOf (linked.schemas.settled_of_mem listed)
  parameters expected :=
    .ofReferred_ok (exists_resolveAs linked.parameters (fun _ => rfl) expected _)
  requestBodies expected :=
    .ofReferred_ok (exists_resolveAs linked.requestBodies (fun _ => rfl) expected _)
  responses expected :=
    .ofReferred_ok (exists_resolveAs linked.responses (fun _ => rfl) expected _)

/-- The module of a closed document is written under all options, and so is that of a
document without references, unless a value or a length stands in the way. -/
theorem written_or_obstacle
    (description : Description)
    (closed : Closed description ∨ WithoutReferences description)
    (options : Options) :
    (∃ text, (generateFrom description options).result = .ok text) ∨
      ∃ interruption, Obstacle description options interruption ∧
        (generateFrom description options).result = .error interruption := by
  have linked : Linked (.ofDescription description) := by
    rcases closed with closed | without
    · exact closed.linked
    · exact without.linked
  cases finished : (generateFrom description options).result with
  | ok text => exact .inl ⟨text, rfl⟩
  | error interruption =>
      obtain ⟨before, unit, after, units, failed, _⟩ := exists_first_of_generateFrom finished
      have listed : unit ∈ documentUnits (.ofDescription description) := by simp [units]
      have unitLinked : Linked (Context.catalog
          ⟨.ofDescription description, options, some unit.location⟩) := linked
      exact .inr ⟨interruption, stop_of_failure? listed unitLinked.unitStopping failed, rfl⟩

/-- Two schemas that merge each other, one of them contradicting itself, and a parameter
behind an alias. -/
theorem written_or_obstacle_of_cycle :
    let first : Schema := { allOf := some [.reference ⟨"#/components/schemas/B", none⟩] }
    let second : Schema :=
      { types := ["string", "null"], allOf := some [.reference ⟨"#/components/schemas/A", none⟩] }
    let parameter : Parameter :=
      { name := "q", location := "query",
        schema := some (.reference ⟨"#/components/schemas/A", none⟩) }
    let operation : Operation :=
      { parameters := [.reference ⟨"#/components/parameters/P", none⟩] }
    let description : Description :=
      { paths := [("/", { operations := [(.get, operation)] })]
        components :=
          { schemas := [("A", .inline first), ("B", .inline second)]
            parameters :=
              [("P", .reference ⟨"#/components/parameters/Q", none⟩), ("Q", .inline parameter)] } }
    Closed description ∧
      ∀ options, ∃ text, (generateFrom description options).result = .ok text := by
  intro first second parameter operation description
  have nodes : description.nodes =
      [.inline first, .inline second, .reference ⟨"#/components/schemas/A", none⟩] := rfl
  have parsedA : Pointer.parse "#/components/schemas/A" = .ok ⟨.schemas, "A"⟩ := by cbv
  have parsedB : Pointer.parse "#/components/schemas/B" = .ok ⟨.schemas, "B"⟩ := by cbv
  have parsedP : Pointer.parse "#/components/parameters/P" = .ok ⟨.parameters, "P"⟩ := by cbv
  have parsedQ : Pointer.parse "#/components/parameters/Q" = .ok ⟨.parameters, "Q"⟩ := by cbv
  have leadsQ : Leads (.ofDescription description) "#/components/parameters/Q"
      (.parameter parameter) := .object parsedQ rfl
  have leadsP : Leads (.ofDescription description) "#/components/parameters/P"
      (.parameter parameter) := .step ⟨_, _, parsedP, rfl, rfl⟩ leadsQ
  have closed : Closed description := by
    constructor
    · intro ofSection name listed
      cases ofSection <;> revert listed name <;> decide
    · intro node listed target occurs
      rw [nodes] at listed
      have spelled : target = "#/components/schemas/A" ∨ target = "#/components/schemas/B" := by
        simp only [List.mem_cons, List.not_mem_nil, or_false] at listed
        rcases listed with rfl | rfl | rfl <;>
          simp [Node.references, Schema.parts, Schema.additionalNode?, first, second] at occurs <;>
          simp [occurs]
      rcases spelled with rfl | rfl
      · exact ⟨"A", by decide, parsedA⟩
      · exact ⟨"B", by decide, parsedB⟩
    · intro reference listed
      refine ⟨parameter, ?_⟩
      have expected : description.parameterNodes =
          [.reference ⟨"#/components/parameters/Q", none⟩, .inline parameter,
            .reference ⟨"#/components/parameters/P", none⟩] := rfl
      simp only [expected, List.mem_cons, OrReference.reference.injEq, reduceCtorEq,
        List.not_mem_nil, or_false, false_or] at listed
      rcases listed with rfl | rfl
      · exact leadsQ
      · exact leadsP
    all_goals
      intro reference listed
      contradiction
  have held : ∀ schema, description.Holds schema → schema = first ∨ schema = second := by
    intro schema holds
    induction holds with
    | node listed =>
        rw [nodes] at listed
        simpa using listed
    | part _ member hypothesis => rcases hypothesis with rfl | rfl <;> contradiction
  refine ⟨closed, ?_⟩
  intro options
  rcases written_or_obstacle description (.inl closed) options with written | ⟨_, obstacle, _⟩
  · exact written
  · cases obstacle with
    | sample _ holds given => rcases held _ holds with rfl | rfl <;> contradiction
    | named holds given => rcases held _ holds with rfl | rfl <;> contradiction
    | length _ holds _ given => rcases held _ holds with rfl | rfl <;> contradiction

/-- A closed document without references is not written if an example is asked for that
has a date as a key. -/
theorem not_written_of_moment_key :
    let sample : Value := .keyed [(.moment (.date ⟨2020, 1, 2⟩), .text "x")]
    let schema : Schema := { types := ["string"], sample := some sample }
    let description : Description := { components := { schemas := [("A", .inline schema)] } }
    let options : Options := { header := false, includeExamples := true }
    Closed description ∧ WithoutReferences description ∧
      (generateFrom description options).result =
        .error (.unwritable (.momentKey (.date ⟨2020, 1, 2⟩))) := by
  intro sample schema description options
  have nodes : description.nodes = [.inline schema] := rfl
  have references : ∀ node ∈ description.nodes, Node.references node = [] := by
    intro node listed
    rw [nodes, List.mem_singleton] at listed
    rw [listed, Node.references]
    rfl
  refine ⟨⟨?_, ?_, ?_, ?_, ?_⟩, ⟨references, ?_, ?_, ?_⟩, by cbv⟩
  · intro ofSection name listed
    cases ofSection <;> revert listed name <;> decide
  · intro node listed target occurs
    rw [references node listed] at occurs
    contradiction
  all_goals
    intro reference listed
    contradiction

end Typing
end ApiTypings
