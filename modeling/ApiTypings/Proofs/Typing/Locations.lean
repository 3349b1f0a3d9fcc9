import ApiTypings.Proofs.Typing.ReadPaths
import ApiTypings.Proofs.Typing.Units
import ApiTypings.Proofs.Document.Readings

/-!
# Errors name the unit that caused them

A module fails at its first unit that cannot be written, and as that unit does. If the unit
fails at a reference, the error names the unit: the location is handed down unchanged to
every step that looks at a reference, whether in a schema, behind an alias or in a merge.
-/

namespace ApiTypings
namespace Component
namespace Catalog

variable {catalog : Catalog} {location : Option String} {reference : String}
    {error : ReferenceError}

theorem location_of_parse (failed : parse reference location = .error error) :
    error.location = location := by
  unfold parse at failed
  split at failed
  · cases failed
  · cases failed
    rfl

theorem location_of_find
    {pointer : Pointer}
    (failed : catalog.find reference location pointer = .error error) :
    error.location = location := by
  unfold find at failed
  split at failed
  · cases failed
  · cases failed
    rfl

theorem location_of_resolve (failed : catalog.resolve reference location = .error error) :
    error.location = location := by
  unfold resolve at failed
  cases parsed : parse reference location with
  | error earlier =>
      rw [parsed] at failed
      cases failed
      exact location_of_parse parsed
  | ok pointer =>
      rw [parsed] at failed
      cases found : catalog.find reference location pointer with
      | error earlier =>
          simp only [bind, Except.bind, found] at failed
          cases failed
          exact location_of_find found
      | ok component =>
          simp only [bind, Except.bind, found] at failed
          cases failed

/-- The location is kept along a chain of references. -/
theorem location_of_follow
    {seen : List String}
    (failed : catalog.follow location seen reference = .error error) :
    error.location = location := by
  fun_induction follow catalog location seen reference with
  | case1 =>
      cases failed
      rfl
  | case2 _ _ _ _ resolved =>
      cases failed
      exact location_of_resolve resolved
  | case3 => cases failed
  | case4 _ _ _ _ _ _ _ _ hypothesis => exact hypothesis failed

end Catalog
end Component

namespace Document

/-- The names of the component schemas are the keys of their entries. -/
theorem keys_schemas_ofValue (document : Value) :
    Entries.keys (Description.ofValue document).components.schemas =
      Entries.keys
        (mappingAt (mappingAt (document.mapping?.getD []) "components") "schemas") := by
  generalize given : mappingAt (document.mapping?.getD []) "components" = components
  have read : (Description.ofValue document).components.schemas =
      (Node.mapAt components "schemas").getD [] := by
    rw [← given]
    rfl
  rw [read, Node.mapAt_eq]
  unfold mappingAt
  cases (components.lookup "schemas").bind Value.mapping? with
  | none => rfl
  | some entries => simp [readMap, Entries.keys]

end Document

namespace Typing

open Component Document TypeScript

variable {context : Context} {error : ReferenceError}

theorem location_of_target
    {component : OrReference Target}
    (failed : context.target component = .error error) :
    error.location = context.location := by
  cases component with
  | inline target => cases failed
  | reference next =>
      cases followed : context.catalog.follow context.location [] next.target with
      | error earlier =>
          simp only [Context.target, followed, Except.map] at failed
          cases failed
          exact Catalog.location_of_follow followed
      | ok found =>
          simp only [Context.target, followed, Except.map] at failed
          cases failed

theorem location_of_refer
    {stack : List Pointer}
    {reference : String}
    (failed : context.refer stack reference = .error error) :
    error.location = context.location := by
  unfold Context.refer at failed
  split at failed
  · rename_i parsed
    cases failed
    exact Catalog.location_of_parse parsed
  · split at failed
    · rename_i found
      cases failed
      exact Catalog.location_of_find found
    · split at failed
      · cases failed
      · unfold Context.inlining at failed
        split at failed
        · cases failed
        · split at failed
          · rename_i reached
            cases failed
            exact location_of_target reached
          · cases failed
          · cases failed
          · cases failed
            rfl

theorem location_of_resolveAs
    {α : Type}
    {problem : Problem}
    {pick : Target → Option α}
    {node : OrReference α}
    (failed : resolveAs context problem pick node = .error error) :
    error.location = context.location := by
  cases node with
  | inline object => cases failed
  | reference reference =>
      simp only [resolveAs] at failed
      split at failed
      · rename_i followed
        cases failed
        exact Catalog.location_of_follow followed
      · split at failed
        · cases failed
        · cases failed
          rfl

/-- Failures of a unit: references in which the unit is named, and obstacles. -/
def Context.Located (context : Context) (interruption : Interruption) : Prop :=
  (∃ error, interruption = .reference error ∧ error.location = context.location) ∨
    context.Obstacle interruption

theorem located_reference (named : error.location = context.location) :
    context.Located (.reference error) :=
  .inl ⟨error, rfl, named⟩

/-- The types of all nodes of the document stop where the unit is named. -/
theorem stopping_holdsNode (context : Context) :
    Stopping context context.catalog.description.HoldsNode context.Located where
  invariant := invariant_holdsNode context
  held holds := holds
  obstacle := .inr
  refer _ failed := located_reference (location_of_refer failed)

theorem unitStopping_located (context : Context) : UnitStopping context context.Located where
  obstacle := .inr
  typed listed _ := (stopping_holdsNode context).typeOf (Description.holdsNode_of_mem listed)
  parameters _ := .ofReferred fun _ failed => located_reference (location_of_resolveAs failed)
  requestBodies _ := .ofReferred fun _ failed => located_reference (location_of_resolveAs failed)
  responses _ := .ofReferred fun _ failed => located_reference (location_of_resolveAs failed)

/-- Units are named by their operations, paths in the order of the document and methods in
the order of methods, and then by the pointers of the component schemas. -/
theorem map_location_documentUnits (document : Value) :
    (documentUnits (.ofDescription (.ofValue document))).map DocumentUnit.location =
      ((mappingAt (document.mapping?.getD []) "paths").flatMap fun entry =>
        (Method.all.filter (Method.isDefined (entry.2.mapping?.getD []))).map
          (operationLocation entry.1)) ++
      (Entries.keys
        (mappingAt (mappingAt (document.mapping?.getD []) "components") "schemas")).map
          fun name => Pointer.text ⟨.schemas, name⟩ := by
  have operations :
      ((Description.ofValue document).paths.flatMap fun path =>
          path.2.operations.map (DocumentUnit.operation path.1 path.2)).map DocumentUnit.location =
        ((Description.ofValue document).paths.map fun path =>
          (path.1, path.2.operations.map Prod.fst)).flatMap fun named =>
            named.2.map (operationLocation named.1) := by
    rw [List.map_flatMap, List.flatMap_map]
    congr 1
    funext path
    rw [List.map_map, List.map_map]
    rfl
  have schemas :
      ((Catalog.ofDescription (.ofValue document)).declarations.map DocumentUnit.schema).map
          DocumentUnit.location =
        (Entries.keys (Description.ofValue document).components.schemas).map
          fun name => Pointer.text ⟨.schemas, name⟩ := by
    unfold Catalog.declarations Entries.keys
    rw [List.map_map, List.map_map, List.map_map]
    rfl
  unfold documentUnits
  rw [List.map_append, schemas, keys_schemas_ofValue]
  congr 1
  refine operations.trans ?_
  rw [paths_ofValue, List.flatMap_map]

/-- The module of a document fails as the first of its units does that fails, in the order
of operations and component schemas, and a unit that fails at a reference is named in the
error. A unit can fail otherwise only at a value or a length. -/
theorem failure_names_first_unit (document : Value) (options : Options) :
    let description := Description.ofValue document
    let catalog := Catalog.ofDescription description
    (documentUnits catalog).map DocumentUnit.location =
        ((mappingAt (document.mapping?.getD []) "paths").flatMap fun entry =>
          (Method.all.filter (Method.isDefined (entry.2.mapping?.getD []))).map
            (operationLocation entry.1)) ++
        (Entries.keys
          (mappingAt (mappingAt (document.mapping?.getD []) "components") "schemas")).map
            (fun name => Pointer.text ⟨.schemas, name⟩) ∧
      (generateFrom description options).failure? =
        (documentUnits catalog).findSome? (DocumentUnit.failure? catalog options) ∧
      ∀ unit ∈ documentUnits catalog, ∀ interruption,
        unit.failure? catalog options = some interruption →
          (∃ error, interruption = .reference error ∧ error.location = some unit.location) ∨
            Obstacle description options interruption := by
  intro description catalog
  refine ⟨map_location_documentUnits document, failure?_generateFrom options description, ?_⟩
  intro unit listed interruption failed
  exact stop_of_failure? listed (unitStopping_located ⟨catalog, options, some unit.location⟩) failed

/-- Two operations with a parameter that is an alias of itself, before a component schema
that is missing. -/
theorem failure_names_first_unit_of_cycle :
    let reference (target : String) : Value := .mapping [("$ref", .text target)]
    let operation : Value := .mapping
      [("parameters", .list [reference "#/components/parameters/P"])]
    let document : Value := .mapping
      [("paths", .mapping [("/a", .mapping [("post", operation), ("get", operation)])]),
        ("components", .mapping
          [("schemas", .mapping [("A", reference "#/components/schemas/N")]),
            ("parameters", .mapping
              [("P", reference "#/components/parameters/Q"),
                ("Q", reference "#/components/parameters/P")])])]
    let description := Description.ofValue document
    let catalog := Catalog.ofDescription description
    (documentUnits catalog).map DocumentUnit.location =
        ["GET /a", "POST /a", "#/components/schemas/A"] ∧
      ∃ unit ∈ documentUnits catalog, ∃ error,
        unit.failure? catalog {} = some (.reference error) ∧
        error.location = some unit.location ∧
        (generateFrom description {}).failure? = some (.reference error) := by
  intro reference operation document description catalog
  obtain ⟨order, first, named⟩ := failure_names_first_unit document {}
  let taken : Operation := { parameters := [.reference ⟨"#/components/parameters/P", none⟩] }
  let item : PathItem := { operations := [(.get, taken), (.post, taken)] }
  let unit : DocumentUnit := .operation "/a" item (.get, taken)
  have listed : unit ∈ documentUnits catalog := List.mem_cons_self
  let context : Context := ⟨catalog, {}, some "GET /a"⟩
  let circular : ReferenceError :=
    ⟨"#/components/parameters/P", .circular ["#/components/parameters/P",
      "#/components/parameters/Q", "#/components/parameters/P"], some "GET /a"⟩
  have resolvedP : catalog.resolve "#/components/parameters/P" (some "GET /a") =
      .ok (⟨.parameters, "P"⟩, .reference ⟨"#/components/parameters/Q", none⟩) :=
    Catalog.resolve_eq_ok_iff.mpr ⟨by cbv, rfl⟩
  have resolvedQ : catalog.resolve "#/components/parameters/Q" (some "GET /a") =
      .ok (⟨.parameters, "Q"⟩, .reference ⟨"#/components/parameters/P", none⟩) :=
    Catalog.resolve_eq_ok_iff.mpr ⟨by cbv, rfl⟩
  have followed :
      catalog.follow (some "GET /a") [] "#/components/parameters/P" = .error circular := by
    rw [Catalog.follow_of_not_mem (by decide), resolvedP]
    dsimp only
    rw [Catalog.follow_of_not_mem (by decide), resolvedQ]
    dsimp only
    rw [Catalog.follow, dif_pos (by decide)]
    rfl
  have resolved : resolveParameter context (.reference ⟨"#/components/parameters/P", none⟩) =
      .error circular := by
    simp only [resolveParameter, resolveAs, context, followed]
  have stopped : parametersMember context item taken = .fail circular := by
    unfold parametersMember
    simp only [item, taken, List.map, List.nil_append, resolved]
    rfl
  have place : operationLocation "/a" .get = "GET /a" := by decide
  have failed : unit.failure? catalog {} = some (.reference circular) := by
    change (operationMember catalog {} "/a" item (.get, taken)).failure? = _
    unfold operationMember
    rw [place]
    change (parametersMember context item taken >>= _).failure? = _
    rw [stopped]
    rfl
  refine ⟨order.trans (by decide), unit, listed, circular, failed, ?_, ?_⟩
  · rcases named unit listed _ failed with ⟨error, same, located⟩ | obstacle
    · cases same
      exact located
    · cases obstacle
  · have units : documentUnits catalog = unit :: (documentUnits catalog).tail := rfl
    rw [first]
    change (documentUnits catalog).findSome? _ = _
    rw [units, List.findSome?_cons, failed]

/-- A document without references does not fail at a reference. -/
theorem failure_without_reference :
    let sample : Value := .keyed [(.moment (.date ⟨2020, 1, 2⟩), .text "x")]
    let schema : Value := .mapping [("type", .text "string"), ("example", sample)]
    let document : Value := .mapping
      [("components", .mapping [("schemas", .mapping [("A", schema)])])]
    let options : Options := { header := false, includeExamples := true }
    (generateFrom (.ofValue document) options).result =
      .error (.unwritable (.momentKey (.date ⟨2020, 1, 2⟩))) := by
  intro sample schema document options
  let node : Node := .inline { types := ["string"], sample := some sample }
  have nodeRead : Node.ofValue schema = node := by
    rw [Node.ofValue, if_neg (by decide), Schema.ofEntries_eq]
    rfl
  have schemasRead : Node.mapAt (mappingAt (document.mapping?.getD []) "components") "schemas" =
      some [("A", node)] := by
    rw [Node.mapAt_eq, ← nodeRead]
    rfl
  have read : Description.ofValue document = { components := { schemas := [("A", node)] } } := by
    simp only [Description.ofValue, Description.ofEntries, Components.ofEntries, schemasRead]
    rfl
  rw [read]
  cbv

end Typing
end ApiTypings
