import ApiTypings.Component.Fresh
import ApiTypings.Component.Naming
import ApiTypings.Component.Pointer
import ApiTypings.Document.Operation
import ApiTypings.Document.References

/-!
# The catalog of components

Looking up components by pointer, and following references from one component
to the next until an object is reached. A chain of references ends, because
every step uses up a reference of the document that was not used before.
-/

namespace ApiTypings
namespace Component

open Document

/-- A component that is no reference. -/
inductive Target
  | schema (schema : Schema)
  | response (response : Response)
  | parameter (parameter : Parameter)
  | requestBody (body : RequestBody)

/-- What a reference cannot be used for. -/
inductive Problem
  | spelling (problem : PointerProblem)
  | missing (pointer : Pointer) (available : List String)
  | circular (chain : List String)
  | notSchema
  | notParameter
  | notRequestBody
  | notResponse
  deriving DecidableEq, Repr

/-- How many available names are listed. -/
def shownNames : Nat := 10

/-- The names that are available, in order and cut short. -/
def availableText (available : List String) : String :=
  let shown := ", ".intercalate (available.take shownNames)
  if available.isEmpty then ""
  else if shownNames < available.length then
    ". Available: " ++ shown ++ ", ... (" ++ toString available.length ++ " total)"
  else ". Available: " ++ shown

/-- The wording of a problem. -/
def Problem.message : Problem → String
  | .spelling problem => problem.message
  | .missing pointer available =>
      "'" ++ pointer.name ++ "' not found in components." ++ pointer.ofSection.key ++
        availableText available
  | .circular chain => "Circular alias: " ++ " -> ".intercalate chain
  | .notSchema => "Reference in schema position does not point to a schema"
  | .notParameter => "Does not point to a parameter"
  | .notRequestBody => "Does not point to a request body"
  | .notResponse => "Does not point to a response"

/-- Whether the reference is sound but leads nowhere. -/
def Problem.isUnresolved : Problem → Bool
  | .missing .. => true
  | .circular _ => true
  | _ => false

/-- A reference that cannot be used, and the unit in which it occurs. -/
structure ReferenceError where
  reference : String
  problem : Problem
  location : Option String
  deriving DecidableEq, Repr

/-- A document with the names of its declarations. -/
structure Catalog where
  description : Description
  names : List (String × String)

/-- Apply a function to the object, if it is not a reference. -/
def OrReference.map {α β : Type} (change : α → β) : OrReference α → OrReference β
  | .reference reference => .reference reference
  | .inline object => .inline (change object)

/-- The reference, if it is one. -/
def OrReference.reference? {α : Type} : OrReference α → Option Reference
  | .reference reference => some reference
  | .inline _ => none

namespace Catalog

/-- The catalog of a document. The name of the declaration of all paths is taken
if the document has paths. -/
def ofDescription (description : Description) : Catalog :=
  let taken := if description.paths.isEmpty then [] else [pathsName]
  ⟨description, assignNames taken (Entries.keys description.components.schemas)⟩

/-- The components of a section. -/
def entries (catalog : Catalog) (ofSection : Section) :
    List (String × OrReference Target) :=
  let components := catalog.description.components
  match ofSection with
  | .schemas => components.schemas.map fun e => (e.1, OrReference.map .schema e.2)
  | .responses => components.responses.map fun e => (e.1, OrReference.map .response e.2)
  | .parameters => components.parameters.map fun e => (e.1, OrReference.map .parameter e.2)
  | .requestBodies =>
      components.requestBodies.map fun e => (e.1, OrReference.map .requestBody e.2)

/-- The targets of all components that are references. -/
def aliases (catalog : Catalog) : List String :=
  Section.all.flatMap fun ofSection =>
    (catalog.entries ofSection).filterMap fun entry =>
      (OrReference.reference? entry.2).map Reference.target

/-- The targets of the references from which types can be asked for in a
component. -/
def referencesIn : OrReference Target → List String
  | .reference reference => [reference.target]
  | .inline (.schema schema) => Node.references (.inline schema)
  | .inline (.parameter parameter) => parameter.schema.toList.flatMap Node.references
  | .inline _ => []

/-- The targets of the references from which types can be asked for in all
components. -/
def references (catalog : Catalog) : List String :=
  Section.all.flatMap fun ofSection =>
    (catalog.entries ofSection).flatMap fun entry => referencesIn entry.2

/-- The component of a pointer. -/
def get? (catalog : Catalog) (pointer : Pointer) : Option (OrReference Target) :=
  (catalog.entries pointer.ofSection).lookup pointer.name

/-- The names of a section in code point order. -/
def available (catalog : Catalog) (ofSection : Section) : List String :=
  (Entries.keys (catalog.entries ofSection)).mergeSort fun a b => decide (a ≤ b)

/-- The name under which a component schema is declared. -/
def declaredName? (catalog : Catalog) (pointer : Pointer) : Option String :=
  if pointer.ofSection = .schemas then catalog.names.lookup pointer.name else none

/-- Component schemas with their pointers and declaration names, in document
order. -/
def declarations (catalog : Catalog) : List (Pointer × String × Node) :=
  catalog.description.components.schemas.map fun entry =>
    (⟨.schemas, entry.1⟩, (catalog.names.lookup entry.1).getD entry.1, entry.2)

/-- How many components there are. -/
def size (catalog : Catalog) : Nat :=
  (Section.all.flatMap catalog.entries).length

/-- The component of a pointer, for which a reference in a unit asks. -/
def find
    (catalog : Catalog)
    (reference : String)
    (location : Option String)
    (pointer : Pointer) :
    Except ReferenceError (OrReference Target) :=
  match catalog.get? pointer with
  | some component => .ok component
  | none =>
      .error ⟨reference, .missing pointer (catalog.available pointer.ofSection), location⟩

/-- The pointer that a reference in a unit spells. -/
def parse (reference : String) (location : Option String) :
    Except ReferenceError Pointer :=
  match Pointer.parse reference with
  | .ok pointer => .ok pointer
  | .error problem => .error ⟨reference, .spelling problem, location⟩

/-- The canonical spelling of a reference in a unit. -/
def canonical (reference : String) (location : Option String) : Except ReferenceError String :=
  (parse reference location).map Pointer.text

/-- The component to which a reference in a unit leads. -/
def resolve (catalog : Catalog) (reference : String) (location : Option String) :
    Except ReferenceError (Pointer × OrReference Target) := do
  let pointer ← parse reference location
  let component ← catalog.find reference location pointer
  return (pointer, component)

/-- What is found under a pointer is one of the entries of its section. -/
theorem get?_mem
    {catalog : Catalog}
    {pointer : Pointer}
    {component : OrReference Target}
    (found : catalog.get? pointer = some component) :
    (pointer.name, component) ∈ catalog.entries pointer.ofSection := by
  unfold get? at found
  generalize catalog.entries pointer.ofSection = entries at found
  induction entries with
  | nil => simp at found
  | cons entry rest induction =>
      rw [List.lookup_cons] at found
      by_cases same : pointer.name == entry.1
      · simp only [same, Option.some.injEq] at found
        have name : pointer.name = entry.1 := eq_of_beq same
        rw [name, ← found]
        exact List.mem_cons_self
      · simp only [same] at found
        exact List.mem_cons_of_mem entry (induction found)

/-- Every section is listed. -/
theorem mem_all (ofSection : Section) : ofSection ∈ Section.all := by
  cases ofSection <;> decide

/-- The references in a component are references of the catalog. -/
theorem mem_references_of_get?
    {catalog : Catalog}
    {pointer : Pointer}
    {component : OrReference Target}
    {target : String}
    (found : catalog.get? pointer = some component)
    (occurs : target ∈ referencesIn component) :
    target ∈ catalog.references := by
  unfold references
  rw [List.mem_flatMap]
  exact ⟨pointer.ofSection, mem_all _,
    List.mem_flatMap.mpr ⟨_, get?_mem found, occurs⟩⟩

/-- A component that is a reference contributes its target to the aliases. -/
theorem mem_aliases_of_get?
    {catalog : Catalog}
    {pointer : Pointer}
    {reference : Reference}
    (found : catalog.get? pointer = some (.reference reference)) :
    reference.target ∈ catalog.aliases := by
  unfold aliases
  rw [List.mem_flatMap]
  exact ⟨pointer.ofSection, mem_all _,
    List.mem_filterMap.mpr ⟨_, get?_mem found, rfl⟩⟩

/-- A component for which a reference asks is found under its pointer. -/
theorem get?_of_find
    {catalog : Catalog}
    {reference : String}
    {location : Option String}
    {pointer : Pointer}
    {component : OrReference Target}
    (found : catalog.find reference location pointer = .ok component) :
    catalog.get? pointer = some component := by
  unfold find at found
  cases stored : catalog.get? pointer with
  | none => simp [stored] at found
  | some target =>
      simp only [stored, Except.ok.injEq] at found
      rw [found]

/-- A component that a reference leads to is found under its pointer. -/
theorem get?_of_resolve
    {catalog : Catalog}
    {reference : String}
    {location : Option String}
    {pointer : Pointer}
    {component : OrReference Target}
    (resolved : catalog.resolve reference location = .ok (pointer, component)) :
    catalog.get? pointer = some component := by
  unfold resolve at resolved
  cases parsed : parse reference location with
  | error problem => simp [parsed, bind, Except.bind] at resolved
  | ok spelled =>
      simp only [parsed, bind, Except.bind, find] at resolved
      cases found : catalog.get? spelled with
      | none => simp [found] at resolved
      | some target =>
          simp only [found, pure, Except.pure, Except.ok.injEq, Prod.mk.injEq] at resolved
          rw [← resolved.1, ← resolved.2]
          exact found

/-- A bound on the length of the chain that is still to be followed from a
reference: the alias targets that are left, and the reference itself unless it is
one of them. -/
def chainLength (catalog : Catalog) (seen : List String) (reference : String) : Nat :=
  freshCount catalog.aliases seen + if reference ∈ catalog.aliases then 0 else 1

/-- Every step of a chain shortens what is left of it. -/
theorem chainLength_lt
    {catalog : Catalog}
    {seen : List String}
    {reference next : String}
    (listed : next ∈ catalog.aliases)
    (known : reference ∉ seen) :
    catalog.chainLength (reference :: seen) next < catalog.chainLength seen reference := by
  have noMore := freshCount_cons_le catalog.aliases seen reference
  unfold chainLength
  simp only [listed, ↓reduceIte]
  by_cases isAlias : reference ∈ catalog.aliases
  · have fewer := freshCount_cons_lt isAlias known
    simp only [isAlias, ↓reduceIte]
    omega
  · simp only [isAlias, ↓reduceIte]
    omega

/-- The object at the end of a chain of references, with the pointer under which
it stands. `seen` holds the references that were followed before, the latest
first. -/
def follow
    (catalog : Catalog)
    (location : Option String)
    (seen : List String)
    (reference : String) :
    Except ReferenceError (Pointer × Target) :=
  if known : reference ∈ seen then
    .error ⟨reference, .circular (reference :: seen).reverse, location⟩
  else
    match resolved : catalog.resolve reference location with
    | .error problem => .error problem
    | .ok (pointer, .inline target) => .ok (pointer, target)
    | .ok (_, .reference next) =>
        have listed := mem_aliases_of_get? (get?_of_resolve resolved)
        have := chainLength_lt listed known
        catalog.follow location (reference :: seen) next.target
termination_by catalog.chainLength seen reference

/-- The object at the end of a chain of references stands under its pointer. -/
theorem get?_of_follow
    {catalog : Catalog}
    {location : Option String}
    {seen : List String}
    {reference : String}
    {pointer : Pointer}
    {target : Target}
    (followed : catalog.follow location seen reference = .ok (pointer, target)) :
    catalog.get? pointer = some (.inline target) := by
  fun_induction follow catalog location seen reference with
  | case1 => contradiction
  | case2 => contradiction
  | case3 _ _ _ _ _ resolved =>
      simp only [Except.ok.injEq, Prod.mk.injEq] at followed
      rw [← followed.1, ← followed.2]
      exact get?_of_resolve resolved
  | case4 _ _ _ _ _ _ _ _ induction => exact induction followed

end Catalog

end Component
end ApiTypings
