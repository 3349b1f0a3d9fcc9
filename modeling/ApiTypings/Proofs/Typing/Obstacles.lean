import ApiTypings.Proofs.Component.Chains
import ApiTypings.Proofs.Component.Pointers
import ApiTypings.Proofs.Typing.Uncommented

/-!
# Where a type cannot be given

The type of a site can only fail to be given at a reference that is met on the way, at a
value that cannot be written, or at an array that is too long. In a document whose
references all lead somewhere no reference stands in the way, also below `allOf` and
whatever is being expanded around it.
-/

namespace ApiTypings
namespace Document

/-- The values that a schema admits by name. -/
def Schema.namedValues (schema : Schema) : List Value :=
  schema.const.toList ++ schema.enum.getD []

end Document

namespace Typing

open Component Document TypeScript

/-! ## Computations that stop at obstacles only -/

section Stops

variable {α β : Type} {Obstacle : Interruption → Prop}

/-- A computation is interrupted by an obstacle if at all. -/
def StopsOnlyAt (Obstacle : Interruption → Prop) (computation : Traced α) : Prop :=
  ∀ interruption, computation.result = .error interruption → Obstacle interruption

namespace StopsOnlyAt

theorem of_ok {computation : Traced α} {value : α} (finished : computation.result = .ok value) :
    StopsOnlyAt Obstacle computation := by
  intro interruption stopped
  rw [finished] at stopped
  contradiction

theorem done (value : α) : StopsOnlyAt Obstacle (.done value) :=
  of_ok rfl

theorem mono
    {Wider : Interruption → Prop}
    {computation : Traced α}
    (stops : StopsOnlyAt Obstacle computation)
    (wider : ∀ {interruption}, Obstacle interruption → Wider interruption) :
    StopsOnlyAt Wider computation := by
  intro interruption stopped
  exact wider (stops interruption stopped)

theorem bind
    {first : Traced α}
    {next : α → Traced β}
    (stops : StopsOnlyAt Obstacle first)
    (goesOn : ∀ value, first.result = .ok value → StopsOnlyAt Obstacle (next value)) :
    StopsOnlyAt Obstacle (first >>= next) := by
  intro interruption stopped
  rw [Traced.result_bind] at stopped
  cases finished : first.result with
  | error earlier =>
      rw [finished] at stopped
      cases stopped
      exact stops _ finished
  | ok value =>
      rw [finished] at stopped
      exact goesOn value finished _ stopped

theorem sequence
    {step : α → Traced β}
    {items : List α}
    (each : ∀ item ∈ items, StopsOnlyAt Obstacle (step item)) :
    StopsOnlyAt Obstacle (Traced.sequence (items.map step)) := by
  induction items with
  | nil => exact done []
  | cons item rest hypothesis =>
      have others := hypothesis fun other member => each other (List.mem_cons_of_mem item member)
      refine bind (each item List.mem_cons_self) ?_
      intro value _
      refine bind others ?_
      intro values _
      exact done (value :: values)

theorem ofReferred
    {outcome : Except ReferenceError α}
    (failed : ∀ error, outcome = .error error → Obstacle (.reference error)) :
    StopsOnlyAt Obstacle (.ofReferred outcome) := by
  intro interruption stopped
  cases outcome with
  | ok value => contradiction
  | error error =>
      cases stopped
      exact failed error rfl

theorem ofReferred_ok
    {outcome : Except ReferenceError α}
    (found : ∃ value, outcome = .ok value) :
    StopsOnlyAt Obstacle (.ofReferred outcome) := by
  obtain ⟨value, rfl⟩ := found
  exact of_ok rfl

theorem ofWritten
    {outcome : Except Json.WriteError α}
    (unwritable : ∀ error, outcome = .error error → Obstacle (.unwritable error)) :
    StopsOnlyAt Obstacle (.ofWritten outcome) := by
  intro interruption stopped
  cases outcome with
  | ok value => contradiction
  | error error =>
      cases stopped
      exact unwritable error rfl

end StopsOnlyAt

end Stops

/-- What stands in the way of the types of a document: an example that is asked for, or
a value that a schema names, which cannot be written, and an array of one length which
no list has. -/
inductive Obstacle (description : Description) (options : Options) : Interruption → Prop
  | sample
      {schema : Schema}
      {value : Value}
      {error : Json.WriteError}
      (asked : options.includeExamples = true)
      (held : description.Holds schema)
      (given : schema.sample = some value)
      (unwritable : Json.write .unicode value = .error error) :
      Obstacle description options (.unwritable error)
  | named
      {schema : Schema}
      {value : Value}
      {error : Json.WriteError}
      (held : description.Holds schema)
      (given : value ∈ schema.namedValues)
      (unwritable : TypeExpr.ofScalar value = .error error) :
      Obstacle description options (.unwritable error)
  | length
      {schema : Schema}
      {length : Int}
      (asked : options.supportArrayLength = true)
      (held : description.Holds schema)
      (fixed : schema.fixedLength?.isSome = true)
      (given : schema.overlong? = some length) :
      Obstacle description options (.overlong length)

/-! ## Values -/

/-- The obstacles in a document under the options of a context. -/
abbrev Context.Obstacle (context : Context) : Interruption → Prop :=
  Typing.Obstacle context.catalog.description context.options

/-- The comment on a node is written unless an example stands in the way. -/
theorem stops_describe
    {description : Description}
    {options : Options}
    {node : Node}
    (held : description.HoldsNode node) :
    StopsOnlyAt (Typing.Obstacle description options) (.ofWritten (describe options node)) := by
  cases node with
  | reference reference =>
      obtain ⟨comment, written⟩ := exists_describe_reference options reference
      rw [written]
      exact .of_ok rfl
  | inline schema =>
      apply StopsOnlyAt.ofWritten
      intro error failed
      have outcome := map_describe_inline options schema
      rw [failed] at outcome
      split at outcome
      · rename_i asked
        obtain ⟨value, given, unwritable⟩ := exists_of_sampleOutcome_eq_error outcome.symm
        exact .sample asked (held schema rfl) given unwritable
      · contradiction

theorem stops_constantType
    {description : Description}
    {options : Options}
    {schema : Schema}
    (held : description.Holds schema)
    {value : Value}
    (given : schema.const = some value) :
    StopsOnlyAt (Typing.Obstacle description options) (.ofWritten (constantType value)) := by
  apply StopsOnlyAt.ofWritten
  intro error failed
  have inValues : value ∈ schema.namedValues := by
    simp [Schema.namedValues, given]
  cases unwritable : TypeExpr.ofScalar value with
  | ok type =>
      simp only [constantType, unwritable, Except.map] at failed
      contradiction
  | error earlier =>
      simp only [constantType, unwritable, Except.map, Except.error.injEq] at failed
      rw [← failed]
      exact .named held inValues unwritable

theorem stops_enumType
    {description : Description}
    {options : Options}
    {schema : Schema}
    (held : description.Holds schema)
    {values : List Value}
    (given : schema.enum = some values) :
    StopsOnlyAt (Typing.Obstacle description options) (.ofWritten (enumType values)) := by
  apply StopsOnlyAt.ofWritten
  intro error failed
  cases several : values.mapM TypeExpr.ofScalar with
  | ok types =>
      simp only [enumType, several, Except.map] at failed
      contradiction
  | error earlier =>
      simp only [enumType, several, Except.map, Except.error.injEq] at failed
      rw [← failed]
      obtain ⟨value, member, unwritable⟩ := exists_of_mapM_eq_error several
      have inValues : value ∈ schema.namedValues := by
        simp [Schema.namedValues, given, member]
      exact .named held inValues unwritable

/-! ## Bodies -/

variable {context : Context}

theorem exists_of_gather_eq_error
    {α : Type}
    {items : List α}
    {bodiesOf : (item : α) → item ∈ items → Bodies}
    {error : ReferenceError}
    (failed : gather items bodiesOf = .error error) :
    ∃ item, ∃ member : item ∈ items, bodiesOf item member = .error error := by
  induction items with
  | nil => cases failed
  | cons item rest hypothesis =>
      unfold gather at failed
      split at failed
      · rename_i first
        cases failed
        exact ⟨item, List.mem_cons_self, first⟩
      · cases failed
      · split at failed
        · rename_i others
          cases failed
          obtain ⟨other, member, found⟩ := hypothesis others
          exact ⟨other, List.mem_cons_of_mem item member, found⟩
        · cases failed
        · cases failed

theorem exists_of_mergedBodies_eq_error
    {stack : List Pointer}
    {schema : Schema}
    {branches : List Node}
    {bodiesOf : (node : Node) → node ∈ branches → Bodies}
    {error : ReferenceError}
    (failed : mergedBodies stack schema branches bodiesOf = .error error) :
    ∃ node, ∃ member : node ∈ branches, bodiesOf node member = .error error := by
  unfold mergedBodies at failed
  split at failed
  · rename_i gathered
    cases failed
    exact exists_of_gather_eq_error gathered
  · cases failed
  · cases failed

/-- If a node cannot be taken apart, the type of a reference that is met on the way cannot
be given either, wherever it stands. -/
theorem exists_refer_of_bodiesOf_eq_error
    {Typed Taken : Node → Prop}
    (invariant : Task.Invariant context Typed Taken)
    {site : Site}
    (taken : Taken site.node)
    {error : ReferenceError}
    (failed : bodiesOf context site = .error error) :
    ∃ reference, Taken (.reference reference) ∧
      ∀ stack, context.refer stack reference.target = .error error := by
  induction site using Site.bodiesInduction context with
  | step site hypothesis =>
      have descend (inner : Site)
          (calls : Task.Calls context (.bodies site) (.bodies inner))
          (failedThere : bodiesOf context inner = .error error) :
          ∃ reference, Taken (.reference reference) ∧
            ∀ stack, context.refer stack reference.target = .error error := by
        obtain ⟨_, ⟨⟩, takenThere⟩ := invariant.taken_of_calls calls taken
        exact hypothesis inner calls takenThere failedThere
      obtain ⟨stack, node⟩ := site
      cases node with
      | reference reference =>
          rw [bodiesOf_reference] at failed
          split at failed
          · rename_i parsed
            cases failed
            exact ⟨reference, taken, fun stack => by simp only [Context.refer, parsed]⟩
          · rename_i parsed
            split at failed
            · cases failed
            · rename_i opened
              split at failed
              · rename_i missing
                cases failed
                exact ⟨reference, taken, fun stack => by
                  simp only [Context.refer, parsed, missing]⟩
              · rename_i found
                exact descend _ (.followed parsed opened found) failed
              · rename_i found
                exact descend _ (.opened parsed opened found) failed
              · cases failed
      | inline schema =>
          rw [bodiesOf_inline] at failed
          split at failed
          · cases failed
          · split at failed
            · split at failed
              · cases failed
              · rename_i given
                obtain ⟨node, member, failedThere⟩ := exists_of_mergedBodies_eq_error failed
                exact descend _ (.nested given member) failedThere
            · cases failed

/-! ## Forms and clauses -/

/-- What the types of some nodes stop at: obstacles, and references among the nodes. -/
structure Stopping
    (context : Context)
    (Typed : Node → Prop)
    (Stop : Interruption → Prop) :
    Prop where
  invariant : Task.Invariant context Typed Typed
  held : ∀ {node : Node}, Typed node → context.catalog.description.HoldsNode node
  obstacle : ∀ {interruption : Interruption}, context.Obstacle interruption → Stop interruption
  refer : ∀ {stack : List Pointer} {reference : Reference} {error : ReferenceError},
    Typed (.reference reference) → context.refer stack reference.target = .error error →
      Stop (.reference error)

namespace Stopping

variable {Typed : Node → Prop} {Stop : Interruption → Prop} (stopping : Stopping context Typed Stop)

include stopping

theorem bodyType
    {body : Body}
    (typed : ∀ site, body.Mentions site → Typed site.node)
    (each : ∀ site, body.Mentions site → StopsOnlyAt Stop (typeOf context site)) :
    StopsOnlyAt Stop (Typing.bodyType context body) := by
  have member (entry : String × Site) (listed : entry ∈ body.properties) :
      StopsOnlyAt Stop (propertyMember context body entry) := by
    have mentioned : body.Mentions entry.2 := .property entry.1 listed
    have held := stopping.held (typed _ mentioned)
    refine .bind ((stops_describe held).mono stopping.obstacle) ?_
    intro comment _
    refine .bind (each _ mentioned) ?_
    intro type _
    exact .done _
  have further : StopsOnlyAt Stop (indexType context body) := by
    unfold indexType
    split
    · exact .done _
    · exact .done _
    · rename_i site given
      refine .bind (each site (.additional given)) ?_
      intro type _
      exact .done _
  refine .bind (.sequence member) ?_
  intro members _
  refine .bind further ?_
  intro index _
  exact .done _

section Schema

variable {stack : List Pointer} {schema : Schema} (typed : Typed (.inline schema))

include typed

theorem holds : context.catalog.description.Holds schema :=
  stopping.held typed schema rfl

theorem tupleType
    (asked : context.options.supportArrayLength = true)
    {length : Nat}
    (fixed : schema.fixedLength? = some length)
    (item : TypeExpr) :
    StopsOnlyAt Stop (Typing.tupleType schema item length) := by
  unfold Typing.tupleType
  split
  · rename_i given
    rintro _ ⟨⟩
    have isFixed : schema.fixedLength?.isSome = true := by rw [fixed]; rfl
    exact stopping.obstacle (.length asked (stopping.holds typed) isFixed given)
  · exact .done _

variable
    (each : ∀ inner, Task.Calls context (.type ⟨stack, .inline schema⟩) (.type inner) →
      StopsOnlyAt Stop (typeOf context inner))

include each

theorem ownType : StopsOnlyAt Stop (Typing.bodyType context (Body.ofSchema stack schema)) := by
  apply stopping.bodyType <;> intro site mentioned <;>
    obtain ⟨part, member, rfl⟩ := Task.exists_part_of_mentions mentioned
  · exact stopping.invariant.part typed member
  · exact each _ (.part member)

theorem formType (form : Form) :
    StopsOnlyAt Stop (Typing.formType context stack schema form) := by
  cases form with
  | array =>
      have items : StopsOnlyAt Stop (itemType context stack schema) := by
        unfold itemType
        split
        · exact .done _
        · rename_i given
          exact each _ (.part (Schema.mem_parts_of_items given))
      refine .bind items ?_
      intro item _
      split
      · rename_i asked fixed
        exact stopping.tupleType typed asked fixed item
      · exact .done _
  | object => exact stopping.ownType typed each
  | keyword word => exact .done _

omit stopping typed in
theorem nodeTypes
    {nodes : List Node}
    (members : ∀ node ∈ nodes, node ∈ schema.parts) :
    StopsOnlyAt Stop (Typing.nodeTypes context stack nodes) :=
  .sequence fun node member => each _ (.part (members node member))

theorem clauseType {clause : Clause} (listed : clause ∈ schema.clauses) :
    StopsOnlyAt Stop (Typing.clauseType context stack schema clause) := by
  have united {nodes : List Node} (members : ∀ node ∈ nodes, node ∈ schema.parts) :
      StopsOnlyAt Stop (Typing.clauseType context stack schema (.oneOf nodes)) := by
    refine .bind (nodeTypes each members) ?_
    intro types _
    exact .done _
  rcases Schema.clause_cases listed with ⟨branches, given, rfl⟩ | ⟨branches, given, rfl⟩ |
    ⟨branches, given, rfl⟩ | rfl | rfl
  · dsimp only [Typing.clauseType]
    split
    · rename_i error failed
      obtain ⟨node, member, failedThere⟩ := exists_of_mergedBodies_eq_error failed
      obtain ⟨reference, met, referred⟩ := exists_refer_of_bodiesOf_eq_error stopping.invariant
        (stopping.invariant.branch typed given member) failedThere
      rintro _ ⟨⟩
      exact stopping.refer met (referred [])
    · rename_i bodies taken
      split
      · exact .done _
      · apply stopping.bodyType <;> intro site mentioned
        · exact stopping.invariant.typed_of_calls (.merged given taken mentioned) typed
        · exact each site (.merged given taken mentioned)
    · refine .bind (nodeTypes each fun node member => Schema.mem_parts_of_allOf given member) ?_
      intro types _
      split
      · refine .bind (stopping.ownType typed each) ?_
        intro own _
        exact .done _
      · exact .done _
  · exact united fun node member => Schema.mem_parts_of_oneOf given member
  · exact united fun node member => Schema.mem_parts_of_anyOf given member
  · exact .of_ok rfl
  · exact stopping.ownType typed each

theorem coreType : StopsOnlyAt Stop (Typing.coreType context stack schema) := by
  have held := stopping.holds typed
  unfold Typing.coreType
  split
  · refine .bind (.sequence fun clause listed => stopping.clauseType typed each listed) ?_
    intro types _
    exact .done _
  · split
    · rename_i given
      exact (stops_constantType held given).mono stopping.obstacle
    · rename_i given
      exact (stops_enumType held given).mono stopping.obstacle
    · refine .bind (.sequence fun form _ => stopping.formType typed each form) ?_
      intro types _
      exact .done _

end Schema

/-! ## Sites -/

/-- The type of a site is given unless a reference, a value or a length stands in the
way. -/
theorem typeOf {site : Site} (typed : Typed site.node) :
    StopsOnlyAt Stop (Typing.typeOf context site) := by
  induction site using Site.callInduction context with
  | step site hypothesis =>
      have each (inner : Site) (calls : Task.Calls context (.type site) (.type inner)) :
          StopsOnlyAt Stop (Typing.typeOf context inner) :=
        hypothesis inner calls (stopping.invariant.typed_of_calls calls typed)
      obtain ⟨stack, node⟩ := site
      cases node with
      | reference reference =>
          rw [typeOf_reference]
          split
          · rename_i failed
            rintro _ ⟨⟩
            exact stopping.refer typed failed
          · exact .done _
          · exact .done _
          · rename_i referred
            exact each _ (.inlined referred)
      | inline schema =>
          rw [typeOf_schema]
          refine .bind (stopping.coreType typed each) ?_
          intro type _
          exact .done _

end Stopping

/-! ## References that lead somewhere -/

/-- A reference in schema position is that to a component schema with a declaration. -/
def Binds (catalog : Catalog) (reference : String) : Prop :=
  ∃ pointer name, Pointer.parse reference = .ok pointer ∧
    catalog.declaredName? pointer = some name ∧
    ∃ node ∈ catalog.description.components.schemas.map Prod.snd,
      catalog.get? pointer.decoded = some (OrReference.map .schema node)

/-- A schema stands in the document, or a reference leads to a component schema. -/
def Settled (catalog : Catalog) : Node → Prop
  | .reference reference => Binds catalog reference.target
  | .inline schema => catalog.description.Holds schema

/-- All references in the schemas of a catalog lead to component schemas. -/
def BindsAll (catalog : Catalog) : Prop :=
  ∀ node ∈ catalog.description.nodes, ∀ target ∈ Node.references node, Binds catalog target

namespace BindsAll

variable {catalog : Catalog} (bound : BindsAll catalog)

include bound

theorem settled_of_mem {node : Node} (listed : node ∈ catalog.description.nodes) :
    Settled catalog node := by
  cases node with
  | reference reference =>
      apply bound _ listed
      rw [Node.references_reference]
      exact List.mem_singleton_self _
  | inline schema => exact .node listed

theorem binds_of_holds
    {schema : Schema}
    (held : catalog.description.Holds schema) :
    ∀ target ∈ Node.references (.inline schema), Binds catalog target := by
  induction held with
  | node listed => exact bound _ listed
  | part _ member hypothesis =>
      intro target occurs
      exact hypothesis target (Node.mem_references_of_part member occurs)

theorem settled_of_part
    {schema : Schema}
    (held : catalog.description.Holds schema)
    {part : Node}
    (member : part ∈ schema.parts) :
    Settled catalog part := by
  cases part with
  | reference reference =>
      apply bound.binds_of_holds held
      apply Node.mem_references_of_part member
      rw [Node.references_reference]
      exact List.mem_singleton_self _
  | inline inner => exact .part held member

end BindsAll

/-- A reference that leads to a component schema stands for its declaration. -/
theorem exists_refer_of_settled
    {reference : Reference}
    (settled : Settled context.catalog (.reference reference))
    (stack : List Pointer) :
    ∃ name, context.refer stack reference.target = .ok (.named name) := by
  obtain ⟨pointer, name, spelled, declared, _, _, stored⟩ := settled
  have parsed : Catalog.parse reference.target context.location = .ok pointer :=
    Catalog.parse_eq_ok_iff.mpr spelled
  exact ⟨name, refer_of_declared parsed stored declared stack⟩

variable (bound : BindsAll context.catalog)

include bound

theorem settled_of_component
    {reference : Reference}
    (settled : Settled context.catalog (.reference reference))
    {pointer : Pointer}
    (parsed : Catalog.parse reference.target context.location = .ok pointer) :
    ∃ node, Settled context.catalog node ∧
      context.component pointer = .ok (OrReference.map .schema node) := by
  obtain ⟨place, _, spelled, _, node, listed, stored⟩ := settled
  obtain rfl : place = pointer :=
    Except.ok.inj (spelled.symm.trans (Catalog.parse_eq_ok_iff.mp parsed))
  refine ⟨node, ?_, ?_⟩
  · exact bound.settled_of_mem (Description.mem_nodes_of_component listed)
  · simp only [Context.component, Catalog.find, stored]

/-- Being settled is kept from a type to the types that it asks for. -/
theorem invariant_settled :
    Task.Invariant context (Settled context.catalog) (Settled context.catalog) where
  inlined := by
    intro stack reference site settled referred
    obtain ⟨name, named⟩ := exists_refer_of_settled settled stack
    rw [named] at referred
    cases referred
  part held member := bound.settled_of_part held member
  branch held given member := bound.settled_of_part held (Schema.mem_parts_of_allOf given member)
  followed := by
    intro reference next pointer settled parsed found
    obtain ⟨node, settledThere, same⟩ := settled_of_component bound settled parsed
    rw [same] at found
    cases node with
    | inline schema => cases found
    | reference other =>
        cases found
        exact settledThere
  opened := by
    intro reference pointer schema settled parsed found
    obtain ⟨node, settledThere, same⟩ := settled_of_component bound settled parsed
    rw [same] at found
    cases node with
    | reference other => cases found
    | inline other =>
        cases found
        exact settledThere
  own settled := settled

/-- The types of settled nodes stop at obstacles only. -/
theorem stopping_settled : Stopping context (Settled context.catalog) context.Obstacle where
  invariant := invariant_settled bound
  held := by
    rintro _ settled schema rfl
    exact settled
  obstacle interruption := interruption
  refer := by
    intro stack reference error settled failed
    obtain ⟨name, named⟩ := exists_refer_of_settled settled stack
    rw [named] at failed
    cases failed

end Typing
end ApiTypings
