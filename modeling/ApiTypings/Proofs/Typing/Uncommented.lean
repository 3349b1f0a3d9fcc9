import ApiTypings.Proofs.Typing.Agreement
import ApiTypings.Proofs.Typing.Faithful
import ApiTypings.Proofs.Typing.Holding

/-!
# Types do not depend on comments

Under options that differ in comments only, the types of a site have the same tree,
or neither of them is found. The only exception is an example that cannot be written.
-/

namespace ApiTypings

/-- The options without those for comments. -/
def Options.uncommented (options : Options) : Options :=
  { options with includeDescriptions := false, includeExamples := false }

namespace TypeScript

/-! ## Comments that can be written -/

/-- Whether an example can be written, if there is one. -/
def sampleOutcome (sample : Option Value) : Except Json.WriteError Unit :=
  match sample with
  | none => .ok ()
  | some value => (Json.write .unicode value).map fun _ => ()

/-- The values that are written in a comment as they are. -/
def isTextual : Value → Bool
  | .null => true
  | .text _ => true
  | _ => false

theorem exists_commentText {value : Value} (textual : isTextual value = true) :
    ∃ text, commentText value = .ok text := by
  cases value with
  | null => exact ⟨_, rfl⟩
  | text content => exact ⟨_, rfl⟩
  | _ => contradiction

/-- A comment can be written if its example can. -/
theorem map_lines_eq_sampleOutcome
    {remark : Remark}
    (described : isTextual remark.description = true)
    (tagged : ∀ tag ∈ remark.tags, isTextual tag = true) :
    (remark.lines.map fun _ => ()) = sampleOutcome remark.example? := by
  obtain ⟨description, described⟩ :
      ∃ description, Remark.descriptionLines remark.description = .ok description := by
    obtain ⟨text, written⟩ := exists_commentText described
    unfold Remark.descriptionLines
    split
    · rw [written]
      exact ⟨_, rfl⟩
    · exact ⟨[], rfl⟩
  obtain ⟨tags, tagged⟩ : ∃ tags, remark.tags.mapM commentText = .ok tags :=
    exists_mapM_eq_ok fun tag listed => exists_commentText (tagged tag listed)
  unfold Remark.lines Remark.content
  rw [described, tagged]
  cases remark.example? with
  | none => rfl
  | some value =>
      simp only [Option.toList, List.mapM_cons, List.mapM_nil, Remark.exampleLine, sampleOutcome]
      cases Json.write .unicode value <;> rfl

end TypeScript

namespace Typing

open Component Document TypeScript

/-- Some options and others differ in comments only, and the others ask for examples
only if the former do. -/
structure Plainer (options other : Options) : Prop where
  same : options.uncommented = other.uncommented
  fewer : other.includeExamples = true → options.includeExamples = true

/-- An example that stands in the document cannot be written. Some options ask for it,
and others do not. -/
inductive SpoiledBy (description : Description) (options other : Options) : Interruption → Prop
  | mk
      {schema : Schema}
      {sample : Value}
      {error : Json.WriteError}
      (asked : options.includeExamples = true)
      (unasked : other.includeExamples = false)
      (held : description.Holds schema)
      (given : schema.sample = some sample)
      (unwritable : Json.write .unicode sample = .error error) :
      SpoiledBy description options other (.unwritable error)

namespace Plainer

variable {options other : Options} (plainer : Plainer options other)

include plainer

theorem immutable : other.immutable = options.immutable :=
  (congrArg Options.immutable plainer.same).symm

theorem additionalProperties : other.additionalProperties = options.additionalProperties :=
  (congrArg Options.additionalProperties plainer.same).symm

theorem supportArrayLength : other.supportArrayLength = options.supportArrayLength :=
  (congrArg Options.supportArrayLength plainer.same).symm

theorem asked_of_ne (differ : options.includeExamples ≠ other.includeExamples) :
    options.includeExamples = true ∧ other.includeExamples = false := by
  have fewer := plainer.fewer
  cases asked : options.includeExamples <;> cases askedOther : other.includeExamples <;>
    simp_all

theorem pathParamsAsTypes : other.pathParamsAsTypes = options.pathParamsAsTypes :=
  (congrArg Options.pathParamsAsTypes plainer.same).symm

theorem exportType : other.exportType = options.exportType :=
  (congrArg Options.exportType plainer.same).symm

theorem alphabetize : other.alphabetize = options.alphabetize :=
  (congrArg Options.alphabetize plainer.same).symm

theorem header : other.header = options.header :=
  (congrArg Options.header plainer.same).symm

theorem isNullable (schema : Schema) : schema.isNullable other = schema.isNullable options := by
  have same : other.defaultNonNullable = options.defaultNonNullable :=
    (congrArg Options.defaultNonNullable plainer.same).symm
  unfold Schema.isNullable
  rw [same]

end Plainer

/-- The context with other options. -/
def Context.under (context : Context) (options : Options) : Context :=
  { context with options := options }

@[simp] theorem Context.options_under (context : Context) (options : Options) :
    (context.under options).options = options := rfl

variable {context : Context} {other : Options}

/-! ## Bodies -/

theorem bodiesOf_under (plainer : Plainer context.options other) (site : Site) :
    bodiesOf (context.under other) site = bodiesOf context site := by
  have invariant : Task.Invariant context (fun _ => True) (fun _ => True) := by
    constructor <;> intros <;> trivial
  have location : (context.under other).location = context.location := rfl
  exact bodiesOf_congr invariant location plainer.isNullable (fun _ _ _ _ => rfl) trivial

/-! ## Comments -/

/-- The interruptions that options may have but plainer ones need not. -/
abbrev Context.Spoiled (context : Context) (other : Options) : Interruption → Prop :=
  SpoiledBy context.catalog.description context.options other

theorem isTextual_about (description : Option String) :
    isTextual (Remark.about description).description = true := by
  cases description <;> rfl

theorem exists_of_sampleOutcome_eq_error
    {sample : Option Value}
    {error : Json.WriteError}
    (failed : sampleOutcome sample = .error error) :
    ∃ value, sample = some value ∧ Json.write .unicode value = .error error := by
  cases sample with
  | none => contradiction
  | some value =>
      refine ⟨value, rfl, ?_⟩
      unfold sampleOutcome at failed
      dsimp only at failed
      cases written : Json.write .unicode value with
      | ok text =>
          rw [written] at failed
          contradiction
      | error problem =>
          rw [written] at failed
          cases failed
          rfl

/-- The comment on a schema can be written if its example can, provided that it is
asked for. -/
theorem map_describe_inline (options : Options) (schema : Schema) :
    ((describe options (.inline schema)).map fun _ => ()) =
      if options.includeExamples then sampleOutcome schema.sample else .ok () := by
  dsimp only [describe]
  refine (map_lines_eq_sampleOutcome ?described ?tagged).trans ?_
  case described => exact isTextual_about _
  case tagged =>
    dsimp only
    split
    · simp [isTextual]
    · simp
  dsimp only
  split <;> rfl

theorem exists_describe_reference (options : Options) (reference : Reference) :
    ∃ comment, describe options (.reference reference) = .ok comment := by
  dsimp only [describe]
  split
  · have written : ((Remark.about reference.description).lines.map fun _ => ()) = .ok () :=
      map_lines_eq_sampleOutcome (isTextual_about _) (by simp [Remark.about])
    obtain ⟨comment, lines, _⟩ := exists_of_map_eq_ok written
    exact ⟨comment, lines⟩
  · exact ⟨[], rfl⟩

/-- Comments agree if they can be written in the same cases. -/
theorem agrees_of_map_eq
    {Excused : Interruption → Prop}
    {first second : Except Json.WriteError (List String)}
    (same : (first.map fun _ => ()) = second.map fun _ => ()) :
    Agrees Excused (fun _ _ => True) (Traced.ofWritten first).result
      (Traced.ofWritten second).result := by
  cases first with
  | ok comment =>
      cases second with
      | ok commentOther => exact .ok trivial
      | error error => cases same
  | error error =>
      cases second with
      | ok commentOther => cases same
      | error errorOther =>
          cases same
          exact .error _

/-- The comments on a node agree. -/
theorem agrees_describe
    (plainer : Plainer context.options other)
    {node : Node}
    (held : context.catalog.description.HoldsNode node) :
    Agrees (context.Spoiled other) (fun _ _ => True)
      (Traced.ofWritten (describe context.options node)).result
      (Traced.ofWritten (describe other node)).result := by
  cases node with
  | reference reference =>
      obtain ⟨left, written⟩ := exists_describe_reference context.options reference
      obtain ⟨right, writtenOther⟩ := exists_describe_reference other reference
      rw [written, writtenOther]
      exact .ok trivial
  | inline schema =>
      have first := map_describe_inline context.options schema
      have second := map_describe_inline other schema
      by_cases same : context.options.includeExamples = other.includeExamples
      · rw [same] at first
        exact agrees_of_map_eq (first.trans second.symm)
      · obtain ⟨asked, unasked⟩ := plainer.asked_of_ne same
        rw [asked, if_pos rfl] at first
        rw [unasked, if_neg Bool.false_ne_true] at second
        cases left : describe context.options (.inline schema) with
        | ok comment =>
            obtain ⟨commentOther, written, _⟩ := exists_of_map_eq_ok second
            rw [written]
            exact .ok trivial
        | error error =>
            rw [left] at first
            obtain ⟨value, given, unwritable⟩ := exists_of_sampleOutcome_eq_error first.symm
            have spoiled : context.Spoiled other (.unwritable error) :=
              .mk asked unasked (held schema rfl) given unwritable
            exact .excused spoiled _

/-! ## Types with the same tree -/

/-- Two types differ in comments only. -/
def SameTree (left right : TypeExpr) : Prop :=
  left.tree = right.tree

theorem map_tree_of_forall₂
    {lefts rights : List TypeExpr}
    (each : List.Forall₂ SameTree lefts rights) :
    lefts.map TypeExpr.tree = rights.map TypeExpr.tree :=
  (map_eq_map_of_forall₂ (fun _ _ same => Eq.symm same) each).symm

theorem sameTree_unionOf
    {lefts rights : List TypeExpr}
    (each : List.Forall₂ SameTree lefts rights) :
    SameTree (.unionOf lefts) (.unionOf rights) := by
  unfold SameTree
  rw [TypeExpr.tree_unionOf, TypeExpr.tree_unionOf, map_tree_of_forall₂ each]

theorem sameTree_intersectionOf
    {lefts rights : List TypeExpr}
    (each : List.Forall₂ SameTree lefts rights) :
    SameTree (.intersectionOf lefts) (.intersectionOf rights) := by
  unfold SameTree
  rw [TypeExpr.tree_intersectionOf, TypeExpr.tree_intersectionOf, map_tree_of_forall₂ each]

theorem sameTree_orNull {left right : TypeExpr} (same : SameTree left right) :
    SameTree left.orNull right.orNull := by
  unfold SameTree at same ⊢
  rw [TypeExpr.tree_orNull, TypeExpr.tree_orNull, same]

/-- A node has the same type under both options, comments aside. -/
def Alike (context : Context) (other : Options) (first second : Traced TypeExpr) : Prop :=
  Agrees (context.Spoiled other) SameTree first.result second.result

/-! ## Members of a body -/

theorem agrees_propertyMember
    (plainer : Plainer context.options other)
    (body : Body)
    {entry : String × Site}
    (held : context.catalog.description.HoldsNode entry.2.node)
    (alike : Alike context other (typeOf context entry.2) (typeOf (context.under other) entry.2)) :
    Agrees (context.Spoiled other) (fun left right => left.field = right.field)
      (propertyMember context body entry).result
      (propertyMember (context.under other) body entry).result := by
  refine .bind (agrees_describe plainer held) ?_
  intro comment commentOther _
  refine .bind alike ?_
  intro left right same
  refine .ok ?_
  simp only [Member.field, Context.options_under, plainer.immutable]
  rw [same]

theorem agrees_indexType
    (plainer : Plainer context.options other)
    {body : Body}
    (alike : ∀ site, body.Mentions site →
      Alike context other (typeOf context site) (typeOf (context.under other) site)) :
    Agrees (context.Spoiled other)
      (fun left right => left.map TypeExpr.tree = right.map TypeExpr.tree)
      (indexType context body).result (indexType (context.under other) body).result := by
  unfold indexType
  split
  · rename_i given
    rw [Context.options_under, plainer.additionalProperties]
    exact .ok rfl
  · exact .ok rfl
  · rename_i site given
    refine .bind (alike site (.additional given)) ?_
    intro left right same
    exact .ok (congrArg some same)

theorem alike_bodyType
    (plainer : Plainer context.options other)
    {body : Body}
    (held : ∀ site, body.Mentions site → context.catalog.description.HoldsNode site.node)
    (alike : ∀ site, body.Mentions site →
      Alike context other (typeOf context site) (typeOf (context.under other) site)) :
    Alike context other (bodyType context body) (bodyType (context.under other) body) := by
  refine .bind (.sequence fun entry listed =>
    agrees_propertyMember plainer body (held _ (.property entry.1 listed))
      (alike _ (.property entry.1 listed))) ?_
  intro lefts rights members
  refine .bind (agrees_indexType plainer alike) ?_
  intro left right further
  refine .ok ?_
  have fields : lefts.map Member.field = rights.map Member.field :=
    (map_eq_map_of_forall₂ (fun _ _ same => Eq.symm same) members).symm
  unfold SameTree
  rw [TypeExpr.tree_objectOr, TypeExpr.tree_objectOr, List.map_append, List.map_append, fields,
    Context.options_under, plainer.immutable]
  refine congrArg (fun signature => Tree.objectOr _ (rights.map Member.field ++ signature)) ?_
  cases left with
  | none =>
      cases right with
      | none => rfl
      | some type => contradiction
  | some type =>
      cases right with
      | none => contradiction
      | some typeOther =>
          have same : type.tree = typeOther.tree := Option.some.inj further
          simp [Member.field, same]

/-! ## Forms and clauses -/

section Schema

variable {stack : List Pointer} {schema : Schema}

theorem alike_ownType
    (plainer : Plainer context.options other)
    (held : context.catalog.description.HoldsNode (.inline schema))
    (alike : ∀ part ∈ schema.parts, Alike context other (typeOf context ⟨stack, part⟩)
      (typeOf (context.under other) ⟨stack, part⟩)) :
    Alike context other (bodyType context (Body.ofSchema stack schema))
      (bodyType (context.under other) (Body.ofSchema stack schema)) := by
  refine alike_bodyType plainer ?_ ?_ <;> intro site mentioned <;>
    obtain ⟨part, member, rfl⟩ := Task.exists_part_of_mentions mentioned
  · exact held.part member
  · exact alike part member

theorem alike_formType
    (plainer : Plainer context.options other)
    (held : context.catalog.description.HoldsNode (.inline schema))
    (alike : ∀ part ∈ schema.parts, Alike context other (typeOf context ⟨stack, part⟩)
      (typeOf (context.under other) ⟨stack, part⟩))
    (form : Form) :
    Alike context other (formType context stack schema form)
      (formType (context.under other) stack schema form) := by
  cases form with
  | array =>
      have items : Alike context other (itemType context stack schema)
          (itemType (context.under other) stack schema) := by
        unfold itemType
        split
        · exact .ok rfl
        · rename_i given
          exact alike _ (Schema.mem_parts_of_items given)
      refine .bind items ?_
      intro left right same
      rw [Context.options_under, plainer.supportArrayLength]
      split
      · unfold tupleType
        split
        · exact .error _
        · exact .ok (congrArg (fun item => Tree.tuple (List.replicate _ item)) same)
      · exact .ok (congrArg Tree.array same)
  | object => exact alike_ownType plainer held alike
  | keyword word => exact .ok rfl

theorem alike_clauseType
    (plainer : Plainer context.options other)
    (held : context.catalog.description.HoldsNode (.inline schema))
    (alike : ∀ inner, Task.Calls context (.type ⟨stack, .inline schema⟩) (.type inner) →
      Alike context other (typeOf context inner) (typeOf (context.under other) inner))
    {clause : Clause}
    (listed : clause ∈ schema.clauses) :
    Alike context other (clauseType context stack schema clause)
      (clauseType (context.under other) stack schema clause) := by
  have parts (part : Node) (member : part ∈ schema.parts) :
      Alike context other (typeOf context ⟨stack, part⟩)
        (typeOf (context.under other) ⟨stack, part⟩) :=
    alike _ (.part member)
  have several (nodes : List Node) (members : ∀ node ∈ nodes, node ∈ schema.parts) :
      Agrees (context.Spoiled other) (List.Forall₂ SameTree)
        (nodeTypes context stack nodes).result
        (nodeTypes (context.under other) stack nodes).result :=
    .sequence fun node member => parts node (members node member)
  have united (nodes : List Node) (members : ∀ node ∈ nodes, node ∈ schema.parts) :
      Alike context other (clauseType context stack schema (.oneOf nodes))
        (clauseType (context.under other) stack schema (.oneOf nodes)) := by
    refine .bind (several nodes members) ?_
    intro lefts rights same
    exact .ok (sameTree_unionOf same)
  rcases Schema.clause_cases listed with ⟨branches, given, rfl⟩ | ⟨branches, given, rfl⟩ |
    ⟨branches, given, rfl⟩ | rfl | rfl
  · have members (node : Node) (member : node ∈ branches) :=
      Schema.mem_parts_of_allOf given member
    dsimp only [clauseType]
    simp only [bodiesOf_under plainer]
    split
    · exact .error _
    · rename_i bodies taken
      split
      · exact .ok rfl
      · refine alike_bodyType plainer ?_ ?_ <;> intro site mentioned
        · exact (invariant_holdsNode context).typed_of_calls (.merged given taken mentioned) held
        · exact alike site (.merged given taken mentioned)
    · refine .bind (several branches members) ?_
      intro lefts rights same
      split
      · refine .bind (alike_ownType plainer held parts) ?_
        intro left right own
        exact .ok (sameTree_intersectionOf (List.rel_append same (.cons own .nil)))
      · exact .ok (sameTree_intersectionOf same)
  · exact united branches fun node member => Schema.mem_parts_of_oneOf given member
  · exact united branches fun node member => Schema.mem_parts_of_anyOf given member
  · exact .ok rfl
  · exact alike_ownType plainer held parts

theorem alike_coreType
    (plainer : Plainer context.options other)
    (held : context.catalog.description.HoldsNode (.inline schema))
    (alike : ∀ inner, Task.Calls context (.type ⟨stack, .inline schema⟩) (.type inner) →
      Alike context other (typeOf context inner) (typeOf (context.under other) inner)) :
    Alike context other (coreType context stack schema)
      (coreType (context.under other) stack schema) := by
  unfold coreType
  split
  · refine .bind (.sequence fun clause listed => alike_clauseType plainer held alike listed) ?_
    intro lefts rights same
    exact .ok (sameTree_intersectionOf same)
  · split
    · exact (Agrees.refl _).mono fun _ _ same => congrArg TypeExpr.tree same
    · exact (Agrees.refl _).mono fun _ _ same => congrArg TypeExpr.tree same
    · refine .bind (.sequence fun form _ =>
        alike_formType plainer held (fun part member => alike _ (.part member)) form) ?_
      intro lefts rights same
      exact .ok (sameTree_unionOf same)

end Schema

/-! ## Sites -/

/-- The types of a site under options that differ in comments have the same tree. -/
theorem alike_typeOf
    (plainer : Plainer context.options other)
    {site : Site}
    (held : context.catalog.description.HoldsNode site.node) :
    Alike context other (typeOf context site) (typeOf (context.under other) site) := by
  induction site using Site.callInduction context with
  | step site each =>
      have alike (inner : Site) (calls : Task.Calls context (.type site) (.type inner)) :
          Alike context other (typeOf context inner) (typeOf (context.under other) inner) :=
        each inner calls ((invariant_holdsNode context).typed_of_calls calls held)
      obtain ⟨stack, node⟩ := site
      cases node with
      | reference reference =>
          have refer : (context.under other).refer stack reference.target =
              context.refer stack reference.target := rfl
          rw [typeOf_reference, typeOf_reference, refer]
          split
          · exact .error _
          · exact .ok rfl
          · exact .ok rfl
          · rename_i referred
            exact alike _ (.inlined referred)
      | inline schema =>
          rw [typeOf_schema, typeOf_schema, Context.options_under, plainer.isNullable]
          refine .bind (alike_coreType plainer held alike) ?_
          intro left right same
          refine .ok ?_
          split
          · exact sameTree_orNull same
          · exact same

end Typing

end ApiTypings
