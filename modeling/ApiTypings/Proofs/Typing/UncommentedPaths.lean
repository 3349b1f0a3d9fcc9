import ApiTypings.Proofs.Typing.Uncommented

/-!
# The type of all paths does not depend on comments

Two members are twins if they are sound and differ in comments only. Parameters,
request bodies and responses are resolved without regard to options, and lead to
schemas that stand in the document, so that everything under a path has a twin.
-/

namespace ApiTypings
namespace TypeScript

/-- The keys of the objects of paths: a word opens no string, template or comment. -/
def MemberKey.IsPlain : MemberKey → Prop
  | .word name => name.toList.all isPlain = true
  | .quoted _ => True
  | .anyKey => True

theorem MemberKey.OfSchema.isPlain {key : MemberKey} (kept : key.OfSchema) : key.IsPlain := by
  cases key with
  | word name => contradiction
  | _ => trivial

/-- Plain keys spell their tokens. -/
theorem MemberKey.IsPlain.spells {key : MemberKey} (plain : key.IsPlain) :
    Spells key.render.toList key.tokens := by
  cases key with
  | word name => exact spells_plain plain
  | quoted name => exact spells_quoted name
  | anyKey => exact Stands.spells fun _ => rfl

end TypeScript

namespace Typing

open Component Document TypeScript

/-- Two types are sound and differ in comments only. -/
structure Twin (catalog : Catalog) (one another : TypeExpr) : Prop where
  sound : one.Sound catalog.Declares MemberKey.IsPlain
  soundOther : another.Sound catalog.Declares MemberKey.IsPlain
  tree : one.tree = another.tree

/-- Two members are sound and differ in comments only. -/
structure TwinMember (catalog : Catalog) (one another : Member TypeExpr) : Prop where
  sound : one.Sound catalog.Declares MemberKey.IsPlain
  soundOther : another.Sound catalog.Declares MemberKey.IsPlain
  field : one.field = another.field

variable {catalog : Catalog}

theorem Twin.same {type : TypeExpr} (sound : type.Sound catalog.Declares MemberKey.IsPlain) :
    Twin catalog type type :=
  ⟨sound, sound, rfl⟩

/-- Twins are the types of members that are twins. -/
theorem Twin.member
    {one another : TypeExpr}
    (twin : Twin catalog one another)
    {key : MemberKey}
    (plain : key.IsPlain)
    (optional : Bool)
    {comment commentOther : List String}
    (silent : Silent comment)
    (silentOther : Silent commentOther) :
    TwinMember catalog ⟨key, one, optional, false, comment⟩
      ⟨key, another, optional, false, commentOther⟩ := by
  refine ⟨⟨plain, silent, twin.sound⟩, ⟨plain, silentOther, twin.soundOther⟩, ?_⟩
  simp only [Member.field]
  rw [twin.tree]

section Members

variable
    {members others : List (Member TypeExpr)}
    (each : List.Forall₂ (TwinMember catalog) members others)

include each

theorem map_field_of_twins : members.map Member.field = others.map Member.field :=
  (map_eq_map_of_forall₂ (fun _ _ twin => twin.field.symm) each).symm

theorem sound_of_twins :
    (∀ member ∈ members, member.Sound catalog.Declares MemberKey.IsPlain) ∧
      ∀ member ∈ others, member.Sound catalog.Declares MemberKey.IsPlain := by
  constructor
  · intro member listed
    obtain ⟨_, _, twin⟩ := exists_right_of_forall₂ each listed
    exact twin.sound
  · intro member listed
    obtain ⟨_, _, twin⟩ := exists_left_of_forall₂ each listed
    exact twin.soundOther

/-- Members that are twins make up objects that are twins. -/
theorem twin_object : Twin catalog (.object members) (.object others) := by
  obtain ⟨sound, soundOther⟩ := sound_of_twins each
  refine ⟨TypeExpr.sound_object sound, TypeExpr.sound_object soundOther, ?_⟩
  rw [TypeExpr.tree_object, TypeExpr.tree_object, map_field_of_twins each]

theorem twin_objectOr (empty : Keyword) :
    Twin catalog (.objectOr empty members) (.objectOr empty others) := by
  obtain ⟨sound, soundOther⟩ := sound_of_twins each
  refine ⟨TypeExpr.sound_objectOr empty sound, TypeExpr.sound_objectOr empty soundOther, ?_⟩
  rw [TypeExpr.tree_objectOr, TypeExpr.tree_objectOr, map_field_of_twins each]

end Members

/-! ## Types of nodes -/

variable {context : Context} {other : Options}

theorem agrees_typeOf
    (plainer : Plainer context.options other)
    {site : Site}
    (held : context.catalog.description.HoldsNode site.node) :
    Agrees (context.Spoiled other) (Twin context.catalog) (typeOf context site).result
      (typeOf (context.under other) site).result := by
  have alike : Agrees _ _ _ _ := alike_typeOf plainer held
  apply alike.and_ok.mono
  rintro left right ⟨tree, typed, typedOther⟩
  have sound := (gives_typeOf context site left typed).1
  have soundOther := (gives_typeOf (context.under other) site right typedOther).1
  exact ⟨sound.mono fun _ => MemberKey.OfSchema.isPlain,
    soundOther.mono fun _ => MemberKey.OfSchema.isPlain, tree⟩

theorem exists_mem_of_primary?
    {α : Type}
    {content : List (String × α)}
    {value : α}
    (chosen : primary? content = some value) :
    ∃ name, (name, value) ∈ content := by
  unfold primary? at chosen
  obtain ⟨⟨name, found⟩, first, rfl⟩ := Option.map_eq_some_iff.mp chosen
  refine ⟨name, ?_⟩
  rcases Option.or_eq_some_iff.mp first with json | ⟨_, head⟩
  · exact List.mem_of_find?_eq_some json
  · exact List.mem_of_head? head

theorem agrees_contentType
    (plainer : Plainer context.options other)
    {content : Content}
    (listed : content ∈ context.catalog.description.contents) :
    Agrees (context.Spoiled other) (Twin context.catalog) (contentType context content).result
      (contentType (context.under other) content).result := by
  unfold contentType typeOf?
  split
  · rename_i node given
    obtain ⟨media, chosen, schema⟩ := Option.bind_eq_some_iff.mp given
    obtain ⟨name, member⟩ := exists_mem_of_primary? chosen
    exact agrees_typeOf plainer (Description.holdsNode_of_content listed member schema)
  · exact .ok (.same (.keyword .unknown))

/-! ## Parameters -/

/-- Only the keyword has the tree of `string`, if nothing of this name is declared. -/
theorem eq_string_of_tree
    {Key : MemberKey → Prop}
    (free : ¬ catalog.Declares Keyword.string.render)
    {type : TypeExpr}
    (sound : type.Sound catalog.Declares Key)
    (tree : type.tree = (TypeExpr.keyword .string).tree) :
    type = .keyword .string := by
  cases sound with
  | keyword word =>
      cases word with
      | string => rfl
      | _ => exact absurd (Tree.name.inj tree) (by decide)
  | literal value =>
      cases value with
      | bool flag => cases flag <;> exact absurd (Tree.name.inj tree) (by decide)
      | float number =>
          simp only [TypeExpr.tree, Literal.tree, Tree.ofFloat] at tree
          split at tree <;> contradiction
      | _ => contradiction
  | @reference name named =>
      have same : name = Keyword.string.render := Tree.name.inj tree
      rw [same] at named
      exact absurd named free
  | negation => exact absurd (Tree.name.inj tree) (by decide)
  | object => rw [TypeExpr.tree_object] at tree; contradiction
  | union => rw [TypeExpr.tree_union] at tree; contradiction
  | intersection => rw [TypeExpr.tree_intersection] at tree; contradiction
  | _ => contradiction

/-- The type of a parameter, whether it is written as a template literal or not. -/
def statedType (context : Context) (parameter : Parameter) : Traced TypeExpr :=
  match parameter.schema with
  | some node => typeOf context ⟨[], node⟩
  | none => contentType context parameter.content

/-- A template literal for the string of a path parameter, if options ask for it. -/
def templated (options : Options) (parameter : Parameter) (type : TypeExpr) : TypeExpr :=
  match type with
  | .keyword .string =>
      if options.pathParamsAsTypes && parameter.location == Place.path.key then .template
      else type
  | _ => type

theorem parameterType_eq (context : Context) (parameter : Parameter) :
    parameterType context parameter = do
      let type ← statedType context parameter
      return templated context.options parameter type := by
  have chosen (type : TypeExpr) :
      (match type with
        | .keyword .string =>
            if context.options.pathParamsAsTypes && parameter.location == Place.path.key then
              Traced.done TypeExpr.template
            else Traced.done type
        | _ => Traced.done type) = Traced.done (templated context.options parameter type) := by
    unfold templated
    split
    · split <;> rfl
    · rfl
  unfold parameterType statedType
  cases parameter.schema with
  | none => exact congrArg (Traced.andThen _) (funext chosen)
  | some node => exact congrArg (Traced.andThen _) (funext chosen)

theorem templated_of_ne
    {type : TypeExpr}
    (different : type ≠ .keyword .string)
    (options : Options)
    (parameter : Parameter) :
    templated options parameter type = type := by
  unfold templated
  split
  · contradiction
  · rfl

theorem twin_templated
    (plainer : Plainer context.options other)
    (free : ¬ catalog.Declares Keyword.string.render)
    {left right : TypeExpr}
    (twin : Twin catalog left right)
    (parameter : Parameter) :
    Twin catalog (templated context.options parameter left) (templated other parameter right) := by
  by_cases text : left = .keyword .string
  · have textOther : right = .keyword .string := by
      apply eq_string_of_tree free twin.soundOther
      rw [← twin.tree, text]
    rw [text, textOther]
    unfold templated
    rw [plainer.pathParamsAsTypes]
    dsimp only
    split
    · exact .same .template
    · exact .same (.keyword .string)
  · have textOther : right ≠ .keyword .string := by
      rintro rfl
      exact text (eq_string_of_tree free twin.sound twin.tree)
    rw [templated_of_ne text, templated_of_ne textOther]
    exact twin

theorem agrees_parameterType
    (plainer : Plainer context.options other)
    (free : ¬ context.catalog.Declares Keyword.string.render)
    {parameter : Parameter}
    (listed : parameter ∈ context.catalog.description.parameters) :
    Agrees (context.Spoiled other) (Twin context.catalog)
      (parameterType context parameter).result
      (parameterType (context.under other) parameter).result := by
  have stated : Agrees (context.Spoiled other) (Twin context.catalog)
      (statedType context parameter).result
      (statedType (context.under other) parameter).result := by
    unfold statedType
    split
    · rename_i given
      exact agrees_typeOf plainer (Description.holdsNode_of_parameter listed given)
    · exact agrees_contentType plainer (Description.mem_contents_of_parameter listed)
  rw [parameterType_eq, parameterType_eq]
  refine .bind stated ?_
  intro left right twin
  exact .ok (twin_templated plainer free twin parameter)

/-! ## Comments outside of schemas -/

/-- A comment can be written. -/
def IsWritten (outcome : Except Json.WriteError (List String)) : Prop :=
  ∃ comment, outcome = .ok comment ∧ Silent comment

theorem isWritten_nil : IsWritten (.ok []) :=
  ⟨[], rfl, silent_nil⟩

theorem isWritten_lines
    {remark : Remark}
    (described : isTextual remark.description = true)
    (tagged : ∀ tag ∈ remark.tags, isTextual tag = true)
    (noExample : remark.example? = none) :
    IsWritten remark.lines := by
  have outcome := map_lines_eq_sampleOutcome described tagged
  rw [noExample] at outcome
  obtain ⟨comment, written, _⟩ := exists_of_map_eq_ok outcome
  exact ⟨comment, written, silent_of_lines written⟩

theorem isWritten_note (options : Options) (description : Option String) :
    IsWritten (note options description) := by
  unfold note
  split
  · exact isWritten_lines (isTextual_about description) (by simp [Remark.about]) rfl
  · exact isWritten_nil

theorem isWritten_parameterComment (options : Options) (parameter : Parameter) :
    IsWritten (parameterComment options parameter) := by
  unfold parameterComment
  split
  · refine isWritten_lines (isTextual_about parameter.description) ?_ rfl
    dsimp only
    split <;> simp [isTextual]
  · exact isWritten_nil

theorem isWritten_operationComment (options : Options) (operation : Operation) :
    IsWritten (operationComment options operation) := by
  unfold operationComment
  split
  · refine isWritten_lines ?described ?_ rfl
    case described =>
      dsimp only
      exact isTextual_about _
    intro tag listed
    rcases List.mem_append.mp listed with identifier | deprecated
    · obtain ⟨name, _, rfl⟩ := List.mem_map.mp identifier
      rfl
    · split at deprecated
      · rw [List.mem_singleton.mp deprecated]
        rfl
      · contradiction
  · exact isWritten_nil

/-- Comments that can be written agree. -/
theorem agrees_comment
    {Excused : Interruption → Prop}
    {first second : Except Json.WriteError (List String)}
    (written : IsWritten first)
    (writtenOther : IsWritten second) :
    Agrees Excused (fun left right => Silent left ∧ Silent right)
      (Traced.ofWritten first).result (Traced.ofWritten second).result := by
  obtain ⟨left, rfl, silent⟩ := written
  obtain ⟨right, rfl, silentOther⟩ := writtenOther
  exact .ok ⟨silent, silentOther⟩

/-! ## Members of parameters -/

theorem agrees_parameterMember
    (plainer : Plainer context.options other)
    (free : ¬ context.catalog.Declares Keyword.string.render)
    {parameter : Parameter}
    (listed : parameter ∈ context.catalog.description.parameters) :
    Agrees (context.Spoiled other) (TwinMember context.catalog)
      (parameterMember context parameter).result
      (parameterMember (context.under other) parameter).result := by
  refine .bind (agrees_parameterType plainer free listed) ?_
  intro left right twin
  refine .bind (agrees_comment (isWritten_parameterComment _ _)
    (isWritten_parameterComment _ _)) ?_
  rintro comment commentOther ⟨silent, silentOther⟩
  have plain : (MemberKey.quoted parameter.name).IsPlain := trivial
  exact .ok (twin.member plain _ silent silentOther)

/-- The members of parameters at a place are twins, or there are none. -/
theorem agrees_placeMember
    (plainer : Plainer context.options other)
    (free : ¬ context.catalog.Declares Keyword.string.render)
    {parameters : List Parameter}
    (listed : ∀ parameter ∈ parameters, parameter ∈ context.catalog.description.parameters)
    (place : Place) :
    Agrees (context.Spoiled other) (Option.Rel (TwinMember context.catalog))
      (placeMember context parameters place).result
      (placeMember (context.under other) parameters place).result := by
  have inside : ∀ parameter ∈ parameters.filter fun parameter => parameter.location == place.key,
      parameter ∈ context.catalog.description.parameters := by
    intro parameter member
    exact listed parameter (List.mem_of_mem_filter member)
  unfold placeMember
  generalize parameters.filter (fun parameter => parameter.location == place.key) = found
    at inside ⊢
  cases found with
  | nil => exact .ok .none
  | cons first rest =>
      refine .bind (.sequence fun parameter member =>
        agrees_parameterMember plainer free (inside parameter member)) ?_
      intro lefts rights twins
      have plain : (MemberKey.word place.key).IsPlain := by cases place <;> rfl
      exact .ok (.some ((twin_object twins).member plain _ silent_nil silent_nil))

/-! ## Resolution -/

/-- What a node resolves to stands in the document, if inline nodes and picked
components do. -/
theorem of_resolveAs
    {α : Type}
    {problem : Problem}
    {pick : Target → Option α}
    {node : OrReference α}
    {Listed : α → Prop}
    (stands : ∀ object, node = .inline object → Listed object)
    (picked : ∀ target, HoldsTarget context.catalog.description target →
      ∀ object, pick target = some object → Listed object)
    {object : α}
    (resolved : resolveAs context problem pick node = .ok object) :
    Listed object := by
  cases node with
  | inline found =>
      apply stands
      exact congrArg OrReference.inline (Except.ok.inj resolved)
  | reference reference =>
      simp only [resolveAs] at resolved
      split at resolved
      · contradiction
      · rename_i followed
        split at resolved
        · rename_i chosen
          cases resolved
          exact picked _ (holdsTarget_of_get? (Catalog.get?_of_follow followed)) _ chosen
        · contradiction

theorem mem_of_resolveParameter
    {node : OrReference Parameter}
    (expected : node ∈ context.catalog.description.parameterNodes)
    {parameter : Parameter}
    (resolved : resolveParameter context node = .ok parameter) :
    parameter ∈ context.catalog.description.parameters := by
  refine of_resolveAs ?_ ?_ resolved
  · rintro inline rfl
    exact Description.mem_parameters expected
  · intro target held found picked
    cases target with
    | parameter inner =>
        cases picked
        exact held
    | _ => contradiction

theorem mem_of_resolveRequestBody
    {node : OrReference RequestBody}
    (expected : node ∈ context.catalog.description.requestBodyNodes)
    {body : RequestBody}
    (resolved : resolveRequestBody context node = .ok body) :
    body ∈ context.catalog.description.requestBodies := by
  refine of_resolveAs ?_ ?_ resolved
  · rintro inline rfl
    exact Description.mem_requestBodies expected
  · intro target held found picked
    cases target with
    | requestBody inner =>
        cases picked
        exact held
    | _ => contradiction

theorem mem_of_resolveResponse
    {node : OrReference Response}
    (expected : node ∈ context.catalog.description.responseNodes)
    {response : Response}
    (resolved : resolveResponse context node = .ok response) :
    response ∈ context.catalog.description.responses := by
  refine of_resolveAs ?_ ?_ resolved
  · rintro inline rfl
    exact Description.mem_responses expected
  · intro target held found picked
    cases target with
    | response inner =>
        cases picked
        exact held
    | _ => contradiction

/-- Resolution does not depend on options. -/
theorem agrees_resolveAs
    {α : Type}
    {problem : Problem}
    {pick : Target → Option α}
    {node : OrReference α}
    {Listed : α → Prop}
    (listed : ∀ object, resolveAs context problem pick node = .ok object → Listed object) :
    Agrees (context.Spoiled other) (fun left right => left = right ∧ Listed left)
      (Traced.ofReferred (resolveAs context problem pick node)).result
      (Traced.ofReferred (resolveAs (context.under other) problem pick node)).result := by
  have same : resolveAs (context.under other) problem pick node =
      resolveAs context problem pick node := by
    cases node <;> rfl
  rw [same]
  cases resolved : resolveAs context problem pick node with
  | error error => exact .error _
  | ok object => exact .ok ⟨rfl, listed object resolved⟩

theorem mem_of_mem_mergeParameters
    {parameters : List Parameter}
    {parameter : Parameter}
    (member : parameter ∈ mergeParameters parameters) :
    parameter ∈ parameters := by
  obtain ⟨entry, listed, rfl⟩ := List.mem_map.mp member
  obtain ⟨found, given, rfl⟩ := List.mem_map.mp (Entries.mem_of_mem_ofPairs listed)
  exact given

/-! ## Responses -/

/-- The type of a response. -/
def responseType (context : Context) (response : Response) : Traced TypeExpr :=
  if response.content.isEmpty then .done (.keyword .void) else contentType context response.content

theorem responseMember_eq (context : Context) (entry : String × OrReference Response) :
    responseMember context entry = do
      let response ← Traced.ofReferred (resolveResponse context entry.2)
      let type ← responseType context response
      let comment ← Traced.ofWritten (note context.options response.description)
      return { key := statusKey entry.1, type := type, comment := comment } := by
  unfold responseMember
  congr 1
  funext response
  unfold responseType
  by_cases empty : response.content.isEmpty = true
  · simp only [empty, if_true]
  · simp only [empty, if_false, Bool.false_eq_true]

theorem isPlain_statusKey (status : String) : (statusKey status).IsPlain := by
  unfold statusKey
  split
  · rename_i unquoted
    rcases Bool.or_eq_true_iff.mp unquoted with digits | default
    · simp only [Text.allDigits, Bool.and_eq_true, List.all_eq_true] at digits
      change status.toList.all isPlain = true
      rw [List.all_eq_true]
      intro c member
      have digit := digits.2 c member
      simp only [isPlain, Bool.and_eq_true, bne_iff_ne, ne_eq]
      refine ⟨⟨?_, ?_⟩, ?_⟩ <;> rintro rfl <;> exact absurd digit (by decide)
    · rw [eq_of_beq default]
      rfl
  · trivial

/-! ## Operations -/

section Operation

variable
    (plainer : Plainer context.options other)
    {path : String × PathItem}
    (onPath : path ∈ context.catalog.description.paths)
    {method : Method × Operation}
    (onItem : method ∈ path.2.operations)

include plainer onPath onItem

theorem agrees_parametersMember (free : ¬ context.catalog.Declares Keyword.string.render) :
    Agrees (context.Spoiled other) (Option.Rel (TwinMember context.catalog))
      (parametersMember context path.2 method.2).result
      (parametersMember (context.under other) path.2 method.2).result := by
  refine .bind (.sequence fun node member => agrees_resolveAs fun parameter =>
    mem_of_resolveParameter
      (Description.mem_parameterNodes_of_operation onPath onItem member)) ?_
  intro found foundOther resolved
  have same : found = foundOther := by
    rw [← List.forall₂_eq_eq_eq]
    exact resolved.imp fun _ _ both => both.1
  have listed : ∀ parameter ∈ mergeParameters found,
      parameter ∈ context.catalog.description.parameters := by
    intro parameter member
    obtain ⟨_, _, both⟩ := exists_right_of_forall₂ resolved (mem_of_mem_mergeParameters member)
    exact both.2
  rw [← same]
  refine .bind (Agrees.refl _) ?_
  intro _ _ _
  refine .bind (.sequence fun place _ => agrees_placeMember plainer free listed place) ?_
  intro groups groupsOther twins
  have present : List.Forall₂ (TwinMember context.catalog) (groups.filterMap id)
      (groupsOther.filterMap id) :=
    List.rel_filterMap (fun _ _ twin => twin) twins
  generalize groups.filterMap id = members at present ⊢
  generalize groupsOther.filterMap id = others at present ⊢
  cases present with
  | nil => exact .ok .none
  | cons twin rest =>
      have plain : (MemberKey.word "parameters").IsPlain := rfl
      exact .ok (.some ((twin_object (.cons twin rest)).member plain _ silent_nil silent_nil))

theorem agrees_requestBodyMember :
    Agrees (context.Spoiled other) (Option.Rel (TwinMember context.catalog))
      (requestBodyMember context method.2).result
      (requestBodyMember (context.under other) method.2).result := by
  unfold requestBodyMember
  split
  · exact .ok .none
  · rename_i node given
    have expected := Description.mem_requestBodyNodes_of_operation onPath onItem given
    refine .bind (agrees_resolveAs fun body => mem_of_resolveRequestBody expected) ?_
    rintro body _ ⟨rfl, listed⟩
    refine .bind (agrees_contentType plainer
      (Description.mem_contents_of_requestBody listed)) ?_
    intro left right twin
    refine .bind (agrees_comment (isWritten_note _ _) (isWritten_note _ _)) ?_
    rintro comment commentOther ⟨silent, silentOther⟩
    have plain : (MemberKey.word "requestBody").IsPlain := rfl
    exact .ok (.some (twin.member plain _ silent silentOther))

theorem agrees_responseMember
    {entry : String × OrReference Response}
    (member : entry ∈ method.2.responses) :
    Agrees (context.Spoiled other) (TwinMember context.catalog)
      (responseMember context entry).result
      (responseMember (context.under other) entry).result := by
  have expected := Description.mem_responseNodes_of_operation onPath onItem member
  rw [responseMember_eq, responseMember_eq]
  refine .bind (agrees_resolveAs fun response => mem_of_resolveResponse expected) ?_
  rintro response _ ⟨rfl, listed⟩
  have typed : Agrees (context.Spoiled other) (Twin context.catalog)
      (responseType context response).result
      (responseType (context.under other) response).result := by
    unfold responseType
    split
    · exact .ok (.same (.keyword .void))
    · exact agrees_contentType plainer (Description.mem_contents_of_response listed)
  refine .bind typed ?_
  intro left right twin
  refine .bind (agrees_comment (isWritten_note _ _) (isWritten_note _ _)) ?_
  rintro comment commentOther ⟨silent, silentOther⟩
  exact .ok (twin.member (isPlain_statusKey entry.1) _ silent silentOther)

theorem agrees_responsesMember :
    Agrees (context.Spoiled other) (TwinMember context.catalog)
      (responsesMember context method.2).result
      (responsesMember (context.under other) method.2).result := by
  refine .bind (.sequence fun entry member =>
    agrees_responseMember plainer onPath onItem member) ?_
  intro members others twins
  have plain : (MemberKey.word "responses").IsPlain := rfl
  exact .ok ((twin_objectOr twins .never).member plain _ silent_nil silent_nil)

end Operation

/-! ## Paths -/

section Paths

variable
    {options : Options}
    (plainer : Plainer options other)
    (free : ¬ catalog.Declares Keyword.string.render)
    {path : String × PathItem}
    (onPath : path ∈ catalog.description.paths)

include plainer free onPath

theorem agrees_operationMember
    {method : Method × Operation}
    (onItem : method ∈ path.2.operations) :
    Agrees (SpoiledBy catalog.description options other) (TwinMember catalog)
      (operationMember catalog options path.1 path.2 method).result
      (operationMember catalog other path.1 path.2 method).result := by
  let context : Context := ⟨catalog, options, some (operationLocation path.1 method.1)⟩
  have plainerHere : Plainer context.options other := plainer
  refine .bind (agrees_parametersMember plainerHere onPath onItem free) ?_
  intro parameters parametersOther twinParameters
  refine .bind (agrees_requestBodyMember plainerHere onPath onItem) ?_
  intro body bodyOther twinBody
  refine .bind (agrees_responsesMember plainerHere onPath onItem) ?_
  intro responses responsesOther twinResponses
  refine .bind (agrees_comment (isWritten_operationComment _ _)
    (isWritten_operationComment _ _)) ?_
  rintro comment commentOther ⟨silent, silentOther⟩
  have twins : List.Forall₂ (TwinMember catalog)
      (parameters.toList ++ body.toList ++ [responses])
      (parametersOther.toList ++ bodyOther.toList ++ [responsesOther]) :=
    List.rel_append (List.rel_append (forall₂_toList twinParameters) (forall₂_toList twinBody))
      (.cons twinResponses .nil)
  have plain : (MemberKey.word method.1.key).IsPlain := by cases method.1 <;> rfl
  exact .ok ((twin_object twins).member plain _ silent silentOther)

/-- The members of a path under options that differ in comments are twins. -/
theorem agrees_pathMember :
    Agrees (SpoiledBy catalog.description options other) (TwinMember catalog)
      (pathMember catalog options path).result (pathMember catalog other path).result := by
  have plain : (MemberKey.quoted path.1).IsPlain := trivial
  have each : ∀ method ∈ path.2.operations,
      Agrees (SpoiledBy catalog.description options other) (TwinMember catalog)
        (operationMember catalog options path.1 path.2 method).result
        (operationMember catalog other path.1 path.2 method).result :=
    fun method member => agrees_operationMember plainer free onPath member
  unfold pathMember
  generalize path.2.operations = operations at each ⊢
  cases operations with
  | nil =>
      have empty : Twin catalog (.record .never) (.record .never) := .same (.record .never)
      exact .ok (empty.member plain _ silent_nil silent_nil)
  | cons first rest =>
      refine .bind (.sequence each) ?_
      intro members others twins
      exact .ok ((twin_object twins).member plain _ silent_nil silent_nil)

end Paths

end Typing
end ApiTypings
