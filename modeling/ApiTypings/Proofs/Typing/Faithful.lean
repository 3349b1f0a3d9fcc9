import ApiTypings.Proofs.Component.Naming
import ApiTypings.Proofs.TypeScript.Reading
import ApiTypings.Proofs.Typing.Calls
import ApiTypings.Proofs.Typing.Denotation
import ApiTypings.Proofs.Typing.Results

/-!
# Types are faithful

The type of a site is sound and its tree is what the site denotes. Hence its text is
read as what the site denotes, unless there is a number in it that is not finite.
-/

namespace ApiTypings

namespace TypeScript

/-- The keys of the objects of schemas: quoted names, and the signature. -/
def MemberKey.OfSchema : MemberKey → Prop
  | .word _ => False
  | .quoted _ => True
  | .anyKey => True

end TypeScript

namespace Typing

open Component Document TypeScript

/-- The tree of the type that a computation gives. -/
def Traced.tree (traced : Traced TypeExpr) : Tree :=
  match traced.result with
  | .ok type => type.tree
  | .error _ => .unknown

theorem Traced.tree_of_result
    {traced : Traced TypeExpr}
    {type : TypeExpr}
    (finished : traced.result = .ok type) :
    traced.tree = type.tree := by
  unfold Traced.tree
  rw [finished]

/-- A type is sound if its names are declared and its keys are those of schemas. -/
abbrev Context.Sound (context : Context) (type : TypeExpr) : Prop :=
  type.Sound context.catalog.Declares MemberKey.OfSchema

/-- The types that a computation gives are sound, and a subject denotes them. -/
def Gives (context : Context) (traced : Traced TypeExpr) (subject : Subject) : Prop :=
  ∀ type, traced.result = .ok type →
    context.Sound type ∧ Denotes context subject type.tree

variable {context : Context}

/-! ## Members of a body -/

theorem silent_describe
    {options : Options}
    {node : Node}
    {comment : List String}
    (described : describe options node = .ok comment) :
    Silent comment := by
  cases node with
  | reference reference =>
      dsimp only [describe] at described
      split at described
      · exact silent_of_lines described
      · cases described
        exact silent_nil
  | inline schema => exact silent_of_lines described

/-- The member of a property has the type of the property. -/
theorem propertyMember_cases
    {body : Body}
    {entry : String × Site}
    {member : Member TypeExpr}
    (finished : (propertyMember context body entry).result = .ok member) :
    (typeOf context entry.2).result = .ok member.type ∧ Silent member.comment ∧
      member.field =
        ⟨.quoted entry.1, (typeOf context entry.2).tree, !body.required.contains entry.1,
          context.options.immutable⟩ := by
  unfold propertyMember at finished
  obtain ⟨comment, described, finished⟩ := Traced.exists_of_result_bind finished
  obtain ⟨type, typed, finished⟩ := Traced.exists_of_result_bind finished
  cases Traced.eq_of_result_pure finished
  refine ⟨typed, silent_describe (Traced.ofWritten_eq_ok described), ?_⟩
  rw [Traced.tree_of_result typed]
  rfl

/-- Further keys have no type, one of which nothing is known, or that of a site. -/
theorem indexType_cases
    {body : Body}
    {further : Option TypeExpr}
    (finished : (indexType context body).result = .ok further) :
    further.map TypeExpr.tree =
        body.further context.options (fun site => (typeOf context site).tree) ∧
      (∀ type ∈ further, type = .unknown ∨
        ∃ site, body.Mentions site ∧ (typeOf context site).result = .ok type) ∧
      ∀ site, body.additional = some (.typed site) →
        ∃ type, (typeOf context site).result = .ok type := by
  have known : TypeExpr.unknown.tree = Tree.unknown := rfl
  unfold indexType at finished
  unfold Body.further
  split at finished
  · rename_i given
    rw [given]
    cases Traced.eq_of_result_pure finished
    cases context.options.additionalProperties <;> simp [known]
  · rename_i flag given
    rw [given]
    cases Traced.eq_of_result_pure finished
    cases flag <;> simp [known]
  · rename_i site given
    obtain ⟨type, typed, finished⟩ := Traced.exists_of_result_bind finished
    cases Traced.eq_of_result_pure finished
    rw [given]
    refine ⟨?_, ?_, ?_⟩
    · rw [Option.map_some]
      exact congrArg some (Traced.tree_of_result typed).symm
    · rintro _ ⟨⟩
      exact .inr ⟨site, .additional given, typed⟩
    · rintro _ ⟨⟩
      exact ⟨type, typed⟩

/-- Where a body has a type, so have the sites that it mentions. -/
theorem gives_bodyType
    {body : Body}
    (each : ∀ site, body.Mentions site → Gives context (typeOf context site) (.site site)) :
    Gives context (bodyType context body) (.body body) := by
  intro type finished
  unfold bodyType at finished
  obtain ⟨members, listed, finished⟩ := Traced.exists_of_result_bind finished
  obtain ⟨further, indexed, finished⟩ := Traced.exists_of_result_bind finished
  cases Traced.eq_of_result_pure finished
  have properties := Traced.forall₂_of_sequence listed
  obtain ⟨furtherTree, furtherTypes, furtherSite⟩ := indexType_cases indexed
  constructor
  · refine TypeExpr.sound_objectOr _ ?_
    intro member inMembers
    rcases List.mem_append.mp inMembers with property | signature
    · obtain ⟨entry, inBody, made⟩ := exists_left_of_forall₂ properties property
      obtain ⟨typed, silent, field⟩ := propertyMember_cases made
      have key : member.key = .quoted entry.1 := congrArg TypeScript.Field.key field
      refine ⟨?_, silent, (each entry.2 (.property entry.1 inBody) member.type typed).1⟩
      rw [key]
      trivial
    · obtain ⟨type, given, rfl⟩ := List.mem_map.mp signature
      refine ⟨trivial, silent_nil, ?_⟩
      rcases furtherTypes type (Option.mem_toList.mp given) with rfl | ⟨site, mentioned, typed⟩
      · exact .keyword .unknown
      · exact (each site mentioned type typed).1
  · have own : members.map Member.field = body.properties.map fun entry =>
        ⟨.quoted entry.1, (typeOf context entry.2).tree, !body.required.contains entry.1,
          context.options.immutable⟩ := by
      refine map_eq_map_of_forall₂ ?_ properties
      intro entry member made
      exact (propertyMember_cases made).2.2
    have fields :
        (members ++ further.toList.map fun type =>
          { key := .anyKey, type := type, readonly := context.options.immutable :
            Member TypeExpr }).map Member.field =
          body.fields context.options fun site => (typeOf context site).tree := by
      unfold Body.fields
      rw [List.map_append, own, ← furtherTree]
      cases further <;> rfl
    rw [TypeExpr.tree_objectOr, fields]
    refine .members ?_
    intro site mentioned
    have typed : ∃ type, (typeOf context site).result = .ok type := by
      cases mentioned with
      | property name inBody =>
          obtain ⟨member, _, made⟩ := exists_right_of_forall₂ properties inBody
          exact ⟨member.type, (propertyMember_cases made).1⟩
      | additional given => exact furtherSite site given
    obtain ⟨type, typed⟩ := typed
    rw [Traced.tree_of_result typed]
    exact (each site mentioned type typed).2

/-! ## Values -/

theorem ofScalar_cases
    (context : Context)
    {value : Value}
    {type? : Option TypeExpr}
    (written : TypeExpr.ofScalar value = .ok type?) :
    type?.map TypeExpr.tree = Tree.ofScalar? value ∧ ∀ type ∈ type?, context.Sound type := by
  have literal (value : Literal) :
      (some (TypeExpr.literal value)).map TypeExpr.tree = some value.tree ∧
        ∀ type ∈ some (TypeExpr.literal value), context.Sound type := by
    refine ⟨rfl, ?_⟩
    rintro _ ⟨⟩
    exact .literal value
  cases value with
  | null =>
      cases written
      refine ⟨rfl, ?_⟩
      rintro _ ⟨⟩
      exact .keyword .null
  | bool flag =>
      cases written
      exact literal _
  | int number =>
      dsimp only [TypeExpr.ofScalar] at written
      split at written
      · cases written
        exact literal _
      · cases written
  | float number =>
      cases written
      exact literal _
  | text content =>
      cases written
      exact literal _
  | _ =>
      cases written
      exact ⟨rfl, by simp⟩

theorem constantType_cases
    {value : Value}
    {type : TypeExpr}
    (written : constantType value = .ok type) :
    context.Sound type ∧ type.tree = (Tree.ofScalar? value).getD .unknown := by
  obtain ⟨type?, scalar, rfl⟩ := exists_of_map_eq_ok written
  obtain ⟨tree, sound⟩ := ofScalar_cases context scalar
  rw [← tree]
  cases type? with
  | none => exact ⟨.keyword .unknown, rfl⟩
  | some type => exact ⟨sound type rfl, rfl⟩

theorem enumType_cases
    {values : List Value}
    {type : TypeExpr}
    (written : enumType values = .ok type) :
    context.Sound type ∧ type.tree = Tree.ofValues values := by
  obtain ⟨types, scalars, rfl⟩ := exists_of_map_eq_ok written
  have each := forall₂_of_mapM_eq_ok scalars
  have trees : types.map (Option.map TypeExpr.tree) = values.map Tree.ofScalar? := by
    refine map_eq_map_of_forall₂ ?_ each
    intro value type? scalar
    exact (ofScalar_cases context scalar).1
  unfold Tree.ofValues
  rw [mapM_eq_mapM_map Tree.ofScalar?, ← trees, mapM_option_map]
  cases present : types.mapM id with
  | none => exact ⟨.keyword .unknown, rfl⟩
  | some found =>
      refine ⟨TypeExpr.sound_unionOf ?_, TypeExpr.tree_unionOf found⟩
      intro type listed
      rw [eq_map_some_of_mapM present] at each
      obtain ⟨value, _, scalar⟩ := exists_left_of_forall₂ each (List.mem_map_of_mem listed)
      exact (ofScalar_cases context scalar).2 type rfl

/-! ## Lists of subjects -/

/-- Where several computations have given types, each subject denotes a tree. -/
theorem gives_each
    {ι : Type}
    {items : List ι}
    {step : ι → Traced TypeExpr}
    {subject : ι → Subject}
    (each : ∀ item ∈ items, Gives context (step item) (subject item))
    {types : List TypeExpr}
    (finished : (Traced.sequence (items.map step)).result = .ok types) :
    (∀ type ∈ types, context.Sound type) ∧
      types.map TypeExpr.tree = items.map (fun item => (step item).tree) ∧
      ∀ item ∈ items, Denotes context (subject item) (step item).tree := by
  have related := Traced.forall₂_of_sequence finished
  refine ⟨?_, ?_, ?_⟩
  · intro type listed
    obtain ⟨item, inItems, typed⟩ := exists_left_of_forall₂ related listed
    exact (each item inItems type typed).1
  · refine map_eq_map_of_forall₂ ?_ related
    intro item type typed
    exact (Traced.tree_of_result typed).symm
  · intro item inItems
    obtain ⟨type, _, typed⟩ := exists_right_of_forall₂ related inItems
    rw [Traced.tree_of_result typed]
    exact (each item inItems type typed).2

/-! ## Forms -/

variable {stack : List Pointer} {schema : Schema}

theorem gives_itemType
    (each : ∀ part ∈ schema.parts,
      Gives context (typeOf context ⟨stack, part⟩) (.site ⟨stack, part⟩)) :
    Gives context (itemType context stack schema) (.optional stack schema.items) := by
  intro type finished
  unfold itemType at finished
  split at finished <;> rename_i given <;> rw [given]
  · cases Traced.eq_of_result_pure finished
    exact ⟨.keyword .unknown, .missing stack⟩
  · obtain ⟨sound, denotes⟩ := each _ (Schema.mem_parts_of_items given) type finished
    exact ⟨sound, .present denotes⟩

theorem gives_ownType
    (each : ∀ part ∈ schema.parts,
      Gives context (typeOf context ⟨stack, part⟩) (.site ⟨stack, part⟩)) :
    Gives context (bodyType context (Body.ofSchema stack schema))
      (.body (Body.ofSchema stack schema)) := by
  refine gives_bodyType ?_
  intro site mentioned
  obtain ⟨part, member, rfl⟩ := Task.exists_part_of_mentions mentioned
  exact each part member

theorem eq_tuple_of_tupleType
    {item type : TypeExpr}
    {length : Nat}
    (finished : (tupleType schema item length).result = .ok type) :
    type = .tuple item length := by
  unfold tupleType at finished
  split at finished
  · contradiction
  · exact Traced.eq_of_result_pure finished

theorem gives_formType
    (each : ∀ part ∈ schema.parts,
      Gives context (typeOf context ⟨stack, part⟩) (.site ⟨stack, part⟩))
    (form : Form) :
    Gives context (formType context stack schema form) (.form stack schema form) := by
  intro type finished
  cases form with
  | array =>
      obtain ⟨item, itemized, finished⟩ := Traced.exists_of_result_bind finished
      obtain ⟨sound, denotes⟩ := gives_itemType each item itemized
      split at finished
      · rename_i supported fixed
        cases eq_tuple_of_tupleType finished
        exact ⟨.tuple sound _, .tuple supported fixed denotes⟩
      · rename_i unsupported
        cases Traced.eq_of_result_pure finished
        refine ⟨.array sound, .array ?_ denotes⟩
        cases flag : context.options.supportArrayLength with
        | false => exact .inl rfl
        | true =>
            refine .inr ?_
            cases length : schema.fixedLength? with
            | none => rfl
            | some length' => exact absurd length (unsupported _ flag)
  | object =>
      obtain ⟨sound, denotes⟩ := gives_ownType each type finished
      exact ⟨sound, .object denotes⟩
  | keyword word =>
      cases Traced.eq_of_result_pure finished
      exact ⟨.keyword word, .keyword stack schema word⟩

/-! ## Clauses -/

theorem gives_clauseType
    (each : ∀ inner, Task.Calls context (.type ⟨stack, .inline schema⟩) (.type inner) →
      Gives context (typeOf context inner) (.site inner))
    {clause : Clause}
    (listed : clause ∈ schema.clauses) :
    Gives context (clauseType context stack schema clause) (.clause stack schema clause) := by
  have parts (part : Node) (member : part ∈ schema.parts) :
      Gives context (typeOf context ⟨stack, part⟩) (.site ⟨stack, part⟩) :=
    each _ (.part member)
  intro type finished
  rcases Schema.clause_cases listed with ⟨branches, given, rfl⟩ | ⟨branches, given, rfl⟩ |
    ⟨branches, given, rfl⟩ | rfl | rfl
  · have inner (node : Node) (member : node ∈ branches) :=
      parts node (Schema.mem_parts_of_allOf given member)
    dsimp only [clauseType] at finished
    split at finished
    · cases finished
    · rename_i bodies taken
      split at finished
      · rename_i unstated
        cases Traced.eq_of_result_pure finished
        exact ⟨.keyword .unknown, .vacuous taken unstated⟩
      · rename_i stated
        have merged : Gives context (bodyType context (Body.merge bodies))
            (.body (Body.merge bodies)) :=
          gives_bodyType fun site mentioned => each site (.merged given taken mentioned)
        obtain ⟨sound, denotes⟩ := merged type finished
        exact ⟨sound, .merged taken (Bool.eq_false_of_not_eq_true stated) denotes⟩
    · rename_i taken
      obtain ⟨types, several, finished⟩ := Traced.exists_of_result_bind finished
      obtain ⟨sound, trees, denote⟩ := gives_each inner several
      split at finished
      · rename_i speaks
        obtain ⟨own, single, finished⟩ := Traced.exists_of_result_bind finished
        obtain ⟨ownSound, ownDenotes⟩ := gives_ownType parts own single
        cases Traced.eq_of_result_pure finished
        rw [TypeExpr.tree_intersectionOf, List.map_append, trees]
        refine ⟨TypeExpr.sound_intersectionOf ?_, .extended taken speaks denote ownDenotes⟩
        intro type inTypes
        rcases List.mem_append.mp inTypes with branch | isOwn
        · exact sound type branch
        · rw [List.mem_singleton.mp isOwn]
          exact ownSound
      · rename_i silent
        cases Traced.eq_of_result_pure finished
        rw [TypeExpr.tree_intersectionOf, trees]
        exact ⟨TypeExpr.sound_intersectionOf sound,
          .intersected taken (Bool.eq_false_of_not_eq_true silent) denote⟩
  · obtain ⟨types, several, finished⟩ := Traced.exists_of_result_bind finished
    obtain ⟨sound, trees, denote⟩ := gives_each
      (fun node member => parts node (Schema.mem_parts_of_oneOf given member)) several
    cases Traced.eq_of_result_pure finished
    rw [TypeExpr.tree_unionOf, trees]
    exact ⟨TypeExpr.sound_unionOf sound, .oneOf denote⟩
  · obtain ⟨types, several, finished⟩ := Traced.exists_of_result_bind finished
    obtain ⟨sound, trees, denote⟩ := gives_each
      (fun node member => parts node (Schema.mem_parts_of_anyOf given member)) several
    cases Traced.eq_of_result_pure finished
    rw [TypeExpr.tree_unionOf, trees]
    exact ⟨TypeExpr.sound_unionOf sound, .anyOf denote⟩
  · cases finished
    exact ⟨.negation, .negation stack schema⟩
  · obtain ⟨sound, denotes⟩ := gives_ownType parts type finished
    exact ⟨sound, .own denotes⟩

/-! ## Sites -/

theorem gives_coreType
    (each : ∀ inner, Task.Calls context (.type ⟨stack, .inline schema⟩) (.type inner) →
      Gives context (typeOf context inner) (.site inner)) :
    Gives context (coreType context stack schema) (.core stack schema) := by
  intro type finished
  unfold coreType at finished
  split at finished
  · rename_i composed
    obtain ⟨types, several, finished⟩ := Traced.exists_of_result_bind finished
    obtain ⟨sound, trees, denote⟩ :=
      gives_each (fun clause listed => gives_clauseType each listed) several
    cases Traced.eq_of_result_pure finished
    rw [TypeExpr.tree_intersectionOf, trees]
    exact ⟨TypeExpr.sound_intersectionOf sound, .composed composed denote⟩
  · rename_i simple
    have single := Bool.eq_false_of_not_eq_true simple
    split at finished
    · rename_i given
      obtain ⟨sound, tree⟩ := constantType_cases (Traced.ofWritten_eq_ok finished)
      rw [tree]
      exact ⟨sound, .constant single given⟩
    · rename_i unfixed given
      obtain ⟨sound, tree⟩ := enumType_cases (Traced.ofWritten_eq_ok finished)
      rw [tree]
      exact ⟨sound, .enumerated single unfixed given⟩
    · rename_i unfixed unlisted
      obtain ⟨types, several, finished⟩ := Traced.exists_of_result_bind finished
      obtain ⟨sound, trees, denote⟩ :=
        gives_each (fun form _ => gives_formType (fun part member => each _ (.part member)) form)
          several
      cases Traced.eq_of_result_pure finished
      rw [TypeExpr.tree_unionOf, trees]
      exact ⟨TypeExpr.sound_unionOf sound, .formed single unfixed unlisted denote⟩

/-- A name to which a reference leads is declared. -/
theorem declares_of_refer
    {reference name : String}
    (referred : context.refer stack reference = .ok (.named name)) :
    context.catalog.Declares name := by
  unfold Context.refer at referred
  split at referred
  · contradiction
  · split at referred
    · contradiction
    · split at referred
      · rename_i declared
        cases referred
        unfold Catalog.declaredName? at declared
        split at declared
        · exact Catalog.declares_of_lookup declared
        · contradiction
      · rename_i component _ _
        unfold Context.inlining at referred
        split at referred
        · cases referred
        · split at referred <;> cases referred

/-- The type of a site is sound, and the site denotes it. -/
theorem gives_typeOf (context : Context) (site : Site) :
    Gives context (typeOf context site) (.site site) := by
  induction site using Site.callInduction context with
  | step site each =>
      obtain ⟨stack, node⟩ := site
      cases node with
      | reference reference =>
          intro type finished
          rw [typeOf_reference] at finished
          split at finished
          · cases finished
          · rename_i referred
            cases Traced.eq_of_result_pure finished
            exact ⟨.reference (declares_of_refer referred), .named referred⟩
          · rename_i referred
            cases Traced.eq_of_result_pure finished
            exact ⟨.keyword .unknown, .unexpanded referred⟩
          · rename_i referred
            obtain ⟨sound, denotes⟩ := each _ (.inlined referred) type finished
            exact ⟨sound, .inlined referred denotes⟩
      | inline schema =>
          intro type finished
          rw [typeOf_schema] at finished
          obtain ⟨core, typed, finished⟩ := Traced.exists_of_result_bind finished
          obtain ⟨sound, denotes⟩ := gives_coreType each core typed
          cases Traced.eq_of_result_pure finished
          split
          · rename_i admits
            rw [TypeExpr.tree_orNull]
            exact ⟨sound.orNull, .nullable admits denotes⟩
          · rename_i strict
            exact ⟨sound, .plain (Bool.eq_false_of_not_eq_true strict) denotes⟩

/-- What holds of all types of sites, and where nothing is known, holds of the type of a node
that may be missing. -/
theorem yields_typeOf?
    {Good : TypeExpr → Prop}
    (unknown : Good .unknown)
    (each : ∀ site, (typeOf context site).Yields Good)
    (stack : List Pointer)
    (node : Option Node) :
    (typeOf? context stack node).Yields Good := by
  cases node with
  | none => exact .pure unknown
  | some node => exact each ⟨stack, node⟩

/-! ## Texts are read as what is denoted -/

/-- The keys of the objects of schemas are read as what they are. -/
theorem reads_key_ofSchema
    {key : MemberKey}
    (kept : key.OfSchema) :
    Spells key.render.toList key.tokens ∧ ReadsKey key.tokens key := by
  cases key with
  | word name => contradiction
  | quoted name => exact ⟨spells_quoted name, .quoted (Json.unquote?_escape name)⟩
  | anyKey =>
      have stands : Stands MemberKey.anyKey.render.toList MemberKey.anyKey.tokens := fun _ => rfl
      exact ⟨stands.spells, .anyKey "key"⟩

/-- Where the names of declarations are words, every site that has a type denotes
exactly one tree, and the text of the type is read as this tree and as nothing else,
unless there is a number in it that is not finite. -/
theorem parses_iff_denotes
    (context : Context)
    (words : ∀ name, context.catalog.Declares name → isWord name.toList = true)
    {site : Site}
    {type : TypeExpr}
    (finished : (typeOf context site).result = .ok type)
    (level : Nat) :
    ∃ tree, (∀ other, Denotes context (.site site) other ↔ other = tree) ∧
      ((∀ other, Parses (type.render level) other ↔ other = tree) ↔ tree.Finite) := by
  obtain ⟨sound, denotes⟩ := gives_typeOf context site type finished
  refine ⟨type.tree, ?_, sound.parses_iff words (fun _ => reads_key_ofSchema) level⟩
  intro other
  constructor
  · intro denotesOther
    exact denotes.unique denotesOther
  · rintro rfl
    exact denotes

/-- An array of a union of which one member is declared, and `null`. -/
theorem parses_iff_denotes_of_nullable_array :
    let branches : List Node :=
      [.reference ⟨"#/components/schemas/A", none⟩, .inline { types := ["string"] }]
    let schema : Schema :=
      { types := ["array"], items := some (.inline { oneOf := some branches }), nullable := true }
    let context : Context :=
      ⟨.ofDescription { components := { schemas := [("A", .inline {})] } }, {}, none⟩
    (∀ name, context.catalog.Declares name → isWord name.toList = true) ∧
      (typeOf context ⟨[], .inline schema⟩).result.map (TypeExpr.render 0) =
        .ok "(A | string)[] | null" ∧
      ∀ tree, Parses "(A | string)[] | null" tree ↔
        tree = .union [.array (.union [.name "A", .name "string"]), .null] := by
  intro branches schema context
  have words : ∀ name, context.catalog.Declares name → isWord name.toList = true := by
    have names : context.catalog.names = [("A", "A")] := by cbv
    rintro name ⟨key, listed⟩
    rw [names] at listed
    cases List.mem_singleton.mp listed
    decide
  have named :
      typeOf context ⟨[], .reference ⟨"#/components/schemas/A", none⟩⟩ =
        .done (.reference "A") := by
    have referred : context.refer [] "#/components/schemas/A" = .ok (.named "A") := by cbv
    rw [typeOf_reference, referred]
  have text : typeOf context ⟨[], .inline { types := ["string"] }⟩ = .done (.keyword .string) := by
    rw [typeOf_schema]
    rfl
  have items : typeOf context ⟨[], .inline { oneOf := some branches }⟩ =
      .done (.union (.reference "A") (.keyword .string) []) := by
    have united : nodeTypes context [] branches = .done [.reference "A", .keyword .string] := by
      simp only [nodeTypes, branches, List.map_cons, List.map_nil, named, text]
      rfl
    rw [typeOf_schema]
    simp [coreType, Schema.isComposed, Schema.clauses, clauseType, united]
    rfl
  have finished : (typeOf context ⟨[], .inline schema⟩).result =
      .ok (.union (.array (.union (.reference "A") (.keyword .string) [])) .null []) := by
    have core : coreType context [] schema =
        .done (.array (.union (.reference "A") (.keyword .string) [])) := by
      simp [schema, coreType, Schema.isComposed, formType, itemType, items, Schema.forms,
        Form.ofName]
      rfl
    rw [typeOf_schema, core]
    rfl
  have finite : Tree.Finite (.union [.array (.union [.name "A", .name "string"]), .null]) := by
    refine .union ?_
    simp only [List.mem_cons, List.not_mem_nil, or_false, forall_eq_or_imp, forall_eq]
    refine ⟨.array (.union ?_), .name "null"⟩
    simp only [List.mem_cons, List.not_mem_nil, or_false, forall_eq_or_imp, forall_eq]
    exact ⟨.name "A", .name "string"⟩
  obtain ⟨tree, denoted, reads⟩ := parses_iff_denotes context words finished 0
  have same := (denoted _).mp (gives_typeOf context _ _ finished).2
  refine ⟨words, ?_, ?_⟩
  · rw [finished]
    rfl
  · rw [← same] at reads
    exact reads.mpr finite

/-- A constant that is not finite has a type, but the text of the type is not read as
what the constant denotes. -/
theorem not_parses_infinite_constant :
    let node : Node := .inline { const := some (.float (Float.ofBits 0xFFF0000000000000)) }
    let context : Context := ⟨.ofDescription {}, {}, none⟩
    ∃ type tree, (typeOf context ⟨[], node⟩).result = .ok type ∧
      Denotes context (.site ⟨[], node⟩) tree ∧ ∀ level, ¬ Parses (type.render level) tree := by
  intro node context
  have finished : (typeOf context ⟨[], node⟩).result =
      .ok (.literal (.float (Float.ofBits 0xFFF0000000000000))) := by
    rw [typeOf_schema]
    rfl
  refine ⟨_, _, finished, (gives_typeOf context _ _ finished).2, ?_⟩
  intro level parses
  have infinite : TypeExpr.tree (.literal (.float (Float.ofBits 0xFFF0000000000000))) =
      .numeral true Decimal.Layout.json.infinity := rfl
  have finite := parses.finite
  rw [infinite] at finite
  cases finite with
  | numeral _ _ bounded => exact bounded rfl

end Typing
end ApiTypings
