import ApiTypings.Document.Content
import ApiTypings.Proofs.Document.Resemblance
import ApiTypings.Typing.Schema

/-!
# Descriptions that match

Two schemas match if their types are made of the same: they differ at most in descriptions,
examples and deprecations, and not even in these if comments are looked at, too. What else a
document consists of matches if the schemas in it do.
-/

namespace ApiTypings
namespace Document

open Typing

variable {α β : Type}

/-- Two entries have the same name and related values. -/
inductive Named {κ : Type} (Related : α → β → Prop) : κ × α → κ × β → Prop
  | mk (name : κ) {left : α} {right : β} (related : Related left right) :
      Named Related (name, left) (name, right)

/-- Two nodes are references to the same target, or related objects. -/
inductive OrReference.Matches (detail : Detail) (Related : α → β → Prop) :
    OrReference α → OrReference β → Prop
  | reference {one other : Reference} (target : other.target = one.target)
      (description : detail = .annotated → other.description = one.description) :
      Matches detail Related (.reference one) (.reference other)
  | inline {one : α} {other : β} (related : Related one other) :
      Matches detail Related (.inline one) (.inline other)

/-- The same is said about further keys. -/
inductive Additional.Matches (Related : α → β → Prop) : Additional α → Additional β → Prop
  | allowed (flag : Bool) : Matches Related (.allowed flag) (.allowed flag)
  | typed {one : α} {other : β} (related : Related one other) :
      Matches Related (.typed one) (.typed other)

namespace Schema

/-- A schema without its parts and without what only comments are made of. -/
def frame (schema : Schema) : Schema :=
  { types := schema.types
    enum := schema.enum
    const := schema.const
    default := schema.default
    minItems := schema.minItems
    maxItems := schema.maxItems
    required := schema.required
    nullable := schema.nullable }

/-- What the comment on a schema is made of. -/
def remark (schema : Schema) : Option String × Option Value × Bool :=
  (schema.description, schema.sample, schema.deprecated)

/-- Two schemas have the same frame and parts that match. -/
inductive Matches (detail : Detail) : Schema → Schema → Prop
  | mk {one other : Schema}
      (frame : other.frame = one.frame)
      (remark : detail = .annotated → other.remark = one.remark)
      (items : Option.Rel (OrReference.Matches detail (Matches detail)) one.items other.items)
      (properties : Option.Rel
        (List.Forall₂ (Named (OrReference.Matches detail (Matches detail))))
        one.properties other.properties)
      (additional : Option.Rel (Additional.Matches (OrReference.Matches detail (Matches detail)))
        one.additional other.additional)
      (allOf : Option.Rel (List.Forall₂ (OrReference.Matches detail (Matches detail)))
        one.allOf other.allOf)
      (oneOf : Option.Rel (List.Forall₂ (OrReference.Matches detail (Matches detail)))
        one.oneOf other.oneOf)
      (anyOf : Option.Rel (List.Forall₂ (OrReference.Matches detail (Matches detail)))
        one.anyOf other.anyOf)
      (negated : Option.Rel (OrReference.Matches detail (Matches detail))
        one.negated other.negated) :
      Matches detail one other

end Schema

/-- Two nodes in schema position match. -/
abbrev Node.Matches (detail : Detail) : Node → Node → Prop :=
  OrReference.Matches detail (Schema.Matches detail)

/-! ## What matching schemas have in common -/

namespace Schema.Matches

variable {detail : Detail} {one other : Schema} (same : Matches detail one other)

include same

/-- What is read off the frame of a schema is the same. -/
theorem of_frame {γ : Type} (read : Schema → γ) (own : ∀ schema, read schema = read schema.frame) :
    read other = read one := by
  cases same with
  | mk frame => rw [own other, own one, frame]

theorem types : other.types = one.types := same.of_frame Schema.types fun _ => rfl

theorem enum : other.enum = one.enum := same.of_frame Schema.enum fun _ => rfl

theorem const : other.const = one.const := same.of_frame Schema.const fun _ => rfl

theorem required : other.required = one.required := same.of_frame Schema.required fun _ => rfl

theorem nullable : other.nullable = one.nullable := same.of_frame Schema.nullable fun _ => rfl

theorem items : Option.Rel (Node.Matches detail) one.items other.items := by
  cases same with
  | mk _ _ items => exact items

theorem properties :
    List.Forall₂ (Named (Node.Matches detail)) (one.properties.getD [])
      (other.properties.getD []) := by
  cases same with
  | mk _ _ _ properties => exact forall₂_getD properties

theorem additional :
    Option.Rel (Additional.Matches (Node.Matches detail)) one.additional other.additional := by
  cases same with
  | mk _ _ _ _ additional => exact additional

theorem allOf : Option.Rel (List.Forall₂ (Node.Matches detail)) one.allOf other.allOf := by
  cases same with
  | mk _ _ _ _ _ allOf => exact allOf

theorem oneOf : Option.Rel (List.Forall₂ (Node.Matches detail)) one.oneOf other.oneOf := by
  cases same with
  | mk _ _ _ _ _ _ oneOf => exact oneOf

theorem anyOf : Option.Rel (List.Forall₂ (Node.Matches detail)) one.anyOf other.anyOf := by
  cases same with
  | mk _ _ _ _ _ _ _ anyOf => exact anyOf

theorem negated : Option.Rel (Node.Matches detail) one.negated other.negated := by
  cases same with
  | mk _ _ _ _ _ _ _ _ negated => exact negated

theorem declaresNull : other.declaresNull = one.declaresNull := by
  unfold Schema.declaresNull
  rw [same.types]

theorem isNullable (options : Options) :
    other.isNullable options = one.isNullable options := by
  have default : other.default = one.default := same.of_frame Schema.default fun _ => rfl
  unfold Schema.isNullable
  rw [same.nullable, same.declaresNull, default]

theorem isComposed : other.isComposed = one.isComposed := by
  unfold Schema.isComposed
  rw [isSome_of_rel same.allOf, isSome_of_rel same.oneOf, isSome_of_rel same.anyOf,
    isSome_of_rel same.negated]

theorem isMerge : other.isMerge = one.isMerge := by
  unfold Schema.isMerge
  simp only [← Option.not_isSome, isSome_of_rel same.allOf, isSome_of_rel same.oneOf,
    isSome_of_rel same.anyOf, isSome_of_rel same.negated]

theorem hasObjectKeywords : other.hasObjectKeywords = one.hasObjectKeywords := by
  have properties : other.properties.isSome = one.properties.isSome := by
    cases same with
    | mk _ _ _ properties => exact isSome_of_rel properties
  unfold Schema.hasObjectKeywords
  rw [properties, isSome_of_rel same.additional, same.required]

theorem hasMembers : other.hasMembers = one.hasMembers := by
  unfold Schema.hasMembers
  rw [isEmpty_of_forall₂ same.properties, isSome_of_rel same.additional]

theorem isPlainObject : other.isPlainObject = one.isPlainObject := by
  unfold Schema.isPlainObject
  rw [same.isComposed, same.enum, same.const, same.nullable, same.declaresNull, same.types,
    same.hasObjectKeywords]

theorem forms : other.forms = one.forms := by
  unfold Schema.forms
  rw [same.types, same.declaresNull, same.hasObjectKeywords, isSome_of_rel same.items]

theorem fixedLength? : other.fixedLength? = one.fixedLength? := same.of_frame Schema.fixedLength? fun _ => rfl

theorem overlong? : other.overlong? = one.overlong? := same.of_frame Schema.overlong? fun _ => rfl

end Schema.Matches

/-! ## Every schema matches itself -/

theorem forall₂_named_self
    {κ : Type}
    {Related : α → α → Prop}
    {entries : List (κ × α)}
    (related : ∀ entry ∈ entries, Related entry.2 entry.2) :
    List.Forall₂ (Named Related) entries entries := by
  rw [List.forall₂_same]
  intro entry listed
  exact .mk entry.1 (related entry listed)

theorem Node.Matches.refl (detail : Detail) (node : Node) : Node.Matches detail node node := by
  induction size : sizeOf node using Nat.strongRecOn generalizing node with
  | _ bound hypothesis =>
      cases node with
      | reference reference => exact .reference rfl fun _ => rfl
      | inline schema =>
          have inside (part : Node) (member : part ∈ schema.parts) :
              Node.Matches detail part part := by
            refine hypothesis (sizeOf part) ?_ part rfl
            have smaller := Schema.sizeOf_lt_of_mem_parts member
            simp only [OrReference.inline.sizeOf_spec] at size
            omega
          have branches (nodes : List Node) (members : ∀ node ∈ nodes, node ∈ schema.parts) :
              List.Forall₂ (Node.Matches detail) nodes nodes :=
            List.forall₂_same.mpr fun node listed => inside node (members node listed)
          refine .inline (.mk rfl (fun _ => rfl) ?_ ?_ ?_ ?_ ?_ ?_ ?_) <;> apply optionRel_self
          · intro items given
            exact inside items (Schema.mem_parts_of_items given)
          · intro properties given
            apply forall₂_named_self
            intro entry listed
            have stated : (entry.1, entry.2) ∈ schema.properties.getD [] := by
              rw [given]
              exact listed
            exact inside entry.2 (Schema.mem_parts_of_property stated)
          · intro further given
            cases further with
            | allowed flag => exact .allowed flag
            | typed node => exact .typed (inside node (Schema.mem_parts_of_additional given))
          · intro nodes given
            exact branches nodes fun node listed => Schema.mem_parts_of_allOf given listed
          · intro nodes given
            exact branches nodes fun node listed => Schema.mem_parts_of_oneOf given listed
          · intro nodes given
            exact branches nodes fun node listed => Schema.mem_parts_of_anyOf given listed
          · intro node given
            apply inside
            simp [Schema.parts, given]

/-! ## Operations and components -/

/-- Two representations of a body match. -/
structure MediaType.Matches (detail : Detail) (one other : MediaType) : Prop where
  schema : Option.Rel (Node.Matches detail) one.schema other.schema

/-- Bodies have the same representations. -/
abbrev Content.Matches (detail : Detail) : Content → Content → Prop :=
  List.Forall₂ (Named (MediaType.Matches detail))

/-- Two parameters match. -/
structure Parameter.Matches (detail : Detail) (one other : Parameter) : Prop where
  name : other.name = one.name
  location : other.location = one.location
  required : other.required = one.required
  remark : detail = .annotated →
    other.description = one.description ∧ other.deprecated = one.deprecated
  schema : Option.Rel (Node.Matches detail) one.schema other.schema
  content : Content.Matches detail one.content other.content

/-- Two request bodies match. -/
structure RequestBody.Matches (detail : Detail) (one other : RequestBody) : Prop where
  required : other.required = one.required
  remark : detail = .annotated → other.description = one.description
  content : Content.Matches detail one.content other.content

/-- Two responses match. -/
structure Response.Matches (detail : Detail) (one other : Response) : Prop where
  remark : detail = .annotated → other.description = one.description
  content : Content.Matches detail one.content other.content

/-- Two operations match. -/
structure Operation.Matches (detail : Detail) (one other : Operation) : Prop where
  remark : detail = .annotated → other.summary = one.summary ∧
    other.description = one.description ∧ other.operationId = one.operationId ∧
    other.deprecated = one.deprecated
  parameters : List.Forall₂ (OrReference.Matches detail (Parameter.Matches detail))
    one.parameters other.parameters
  requestBody : Option.Rel (OrReference.Matches detail (RequestBody.Matches detail))
    one.requestBody other.requestBody
  responses : List.Forall₂ (Named (OrReference.Matches detail (Response.Matches detail)))
    one.responses other.responses

/-- Two paths match. -/
structure PathItem.Matches (detail : Detail) (one other : PathItem) : Prop where
  operations : List.Forall₂ (Named (Operation.Matches detail)) one.operations other.operations
  parameters : List.Forall₂ (OrReference.Matches detail (Parameter.Matches detail))
    one.parameters other.parameters

/-- Two documents have components that match. -/
structure Components.Matches (detail : Detail) (one other : Components) : Prop where
  schemas : List.Forall₂ (Named (Node.Matches detail)) one.schemas other.schemas
  responses : List.Forall₂ (Named (OrReference.Matches detail (Response.Matches detail)))
    one.responses other.responses
  parameters : List.Forall₂ (Named (OrReference.Matches detail (Parameter.Matches detail)))
    one.parameters other.parameters
  requestBodies : List.Forall₂ (Named (OrReference.Matches detail (RequestBody.Matches detail)))
    one.requestBodies other.requestBodies

/-- Two documents match. -/
structure Description.Matches (detail : Detail) (one other : Description) : Prop where
  paths : List.Forall₂ (Named (PathItem.Matches detail)) one.paths other.paths
  components : Components.Matches detail one.components other.components

/-! ## Everything matches itself -/

variable (detail : Detail)

theorem OrReference.Matches.refl
    {Related : α → α → Prop}
    (related : ∀ object, Related object object)
    (node : OrReference α) :
    OrReference.Matches detail Related node node := by
  cases node with
  | reference reference => exact .reference rfl fun _ => rfl
  | inline object => exact .inline (related object)

theorem Schema.Matches.refl (schema : Schema) : schema.Matches detail schema := by
  cases Node.Matches.refl detail (.inline schema) with
  | inline same => exact same

theorem Content.Matches.refl (content : Content) : Content.Matches detail content content := by
  apply forall₂_named_self
  intro entry _
  refine ⟨optionRel_self ?_⟩
  intro node _
  exact Node.Matches.refl detail node

theorem Parameter.Matches.refl (parameter : Parameter) : parameter.Matches detail parameter :=
  ⟨rfl, rfl, rfl, fun _ => ⟨rfl, rfl⟩, optionRel_self fun node _ => Node.Matches.refl detail node,
    Content.Matches.refl detail parameter.content⟩

theorem RequestBody.Matches.refl (body : RequestBody) : body.Matches detail body :=
  ⟨rfl, fun _ => rfl, Content.Matches.refl detail body.content⟩

theorem Response.Matches.refl (response : Response) : response.Matches detail response :=
  ⟨fun _ => rfl, Content.Matches.refl detail response.content⟩

theorem Operation.Matches.refl (operation : Operation) : operation.Matches detail operation where
  remark _ := ⟨rfl, rfl, rfl, rfl⟩
  parameters := List.forall₂_same.mpr fun node _ =>
    OrReference.Matches.refl detail (Parameter.Matches.refl detail) node
  requestBody := optionRel_self fun node _ =>
    OrReference.Matches.refl detail (RequestBody.Matches.refl detail) node
  responses := forall₂_named_self fun entry _ =>
    OrReference.Matches.refl detail (Response.Matches.refl detail) entry.2

theorem PathItem.Matches.refl (item : PathItem) : item.Matches detail item where
  operations := forall₂_named_self fun entry _ => Operation.Matches.refl detail entry.2
  parameters := List.forall₂_same.mpr fun node _ =>
    OrReference.Matches.refl detail (Parameter.Matches.refl detail) node

end Document
end ApiTypings
