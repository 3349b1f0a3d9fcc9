import ApiTypings.Proofs.TypeScript.Keys
import ApiTypings.Proofs.Typing.Faithful
import ApiTypings.Proofs.Typing.Surface

/-!
# The type of all paths is faithful

The type of all paths is sound and its tree is what the paths denote. Hence its text is read
as what they denote, unless there is a number in it that is not finite, or a status that
consists of digits but is no number.
-/

namespace ApiTypings
namespace Typing

open Component Document TypeScript

theorem yields_comment {outcome : Except Json.WriteError (List String)} (written : IsWritten outcome) :
    (Traced.ofWritten outcome).Yields Silent := by
  intro comment finished
  obtain ⟨found, rfl, silent⟩ := written
  cases Traced.ofWritten_eq_ok finished
  exact silent

/-! ## Faithful types -/

/-- A type is sound, and its tree is one that is denoted. -/
structure FaithfulType
    (catalog : Catalog)
    (Key : MemberKey → Prop)
    (Denoted : Tree → Prop)
    (type : TypeExpr) : Prop where
  sound : type.Sound catalog.Declares Key
  denotes : Denoted type.tree

/-- A member is sound, and its field is one that is denoted. -/
structure FaithfulMember
    (catalog : Catalog)
    (Key : MemberKey → Prop)
    (Denoted : TypeScript.Field Tree → Prop)
    (member : Member TypeExpr) : Prop where
  sound : member.Sound catalog.Declares Key
  denotes : Denoted member.field

/-- Members are sound, and their fields are those that are denoted. -/
structure FaithfulMembers
    (catalog : Catalog)
    (Key : MemberKey → Prop)
    (Denoted : List (TypeScript.Field Tree) → Prop)
    (members : List (Member TypeExpr)) : Prop where
  sound : ∀ member ∈ members, member.Sound catalog.Declares Key
  denotes : Denoted (members.map Member.field)

section Faithful

variable {catalog : Catalog} {Key : MemberKey → Prop}

theorem FaithfulType.member
    {Denoted : Tree → Prop}
    {type : TypeExpr}
    (faithful : FaithfulType catalog Key Denoted type)
    {key : MemberKey}
    (admitted : Key key)
    (optional : Bool)
    {comment : List String}
    (silent : Silent comment) :
    FaithfulMember catalog Key (FieldOf key optional Denoted)
      ⟨key, type, optional, false, comment⟩ :=
  ⟨⟨admitted, silent, faithful.sound⟩, .mk faithful.denotes⟩

section Members

variable
    {α : Type}
    {Denoted : α → TypeScript.Field Tree → Prop}
    {items : List α}
    {members : List (Member TypeExpr)}
    (each : List.Forall₂ (fun item => FaithfulMember catalog Key (Denoted item)) items members)

include each

theorem sound_of_faithful : ∀ member ∈ members, member.Sound catalog.Declares Key := by
  intro member listed
  obtain ⟨_, _, faithful⟩ := exists_left_of_forall₂ each listed
  exact faithful.sound

theorem faithful_object : FaithfulType catalog Key (ObjectOf Denoted items) (.object members) where
  sound := TypeExpr.sound_object (sound_of_faithful each)
  denotes := by
    rw [TypeExpr.tree_object]
    exact .mk (List.forall₂_map_right_iff.mpr (each.imp fun _ _ faithful => faithful.denotes))

end Members

/-! ## Leaves -/

variable {context : Context}

/-- The keys of schemas and all words are among the keys that are admitted. -/
structure AdmitsWords (Key : MemberKey → Prop) : Prop where
  ofSchema : ∀ key : MemberKey, key.OfSchema → Key key
  word : ∀ name : String, isWord name.toList = true → Key (.word name)

variable (admits : AdmitsWords Key)

include admits

theorem yields_typeOf (context : Context) (site : Site) :
    (typeOf context site).Yields
      (FaithfulType context.catalog Key (Denotes context (.site site))) := by
  intro type finished
  obtain ⟨sound, denotes⟩ := gives_typeOf context site type finished
  exact ⟨sound.mono admits.ofSchema, denotes⟩

theorem yields_contentType (context : Context) (content : Content) :
    (contentType context content).Yields
      (FaithfulType context.catalog Key (ContentDenotes context content)) := by
  unfold contentType ContentDenotes
  cases (primary? content).bind MediaType.schema with
  | none => exact .pure ⟨.keyword .unknown, .missing []⟩
  | some node =>
      intro type finished
      obtain ⟨sound, denotes⟩ := yields_typeOf admits context ⟨[], node⟩ type finished
      exact ⟨sound, .present denotes⟩

theorem yields_statedType (context : Context) (parameter : Parameter) :
    (statedType context parameter).Yields
      (FaithfulType context.catalog Key (StatedDenotes context parameter)) := by
  intro type finished
  unfold statedType at finished
  split at finished
  · rename_i given
    obtain ⟨sound, denotes⟩ := yields_typeOf admits context _ type finished
    exact ⟨sound, .schema given denotes⟩
  · rename_i missing
    obtain ⟨sound, denotes⟩ := yields_contentType admits context _ type finished
    exact ⟨sound, .content missing denotes⟩

theorem yields_parameterType
    (free : ¬ context.catalog.Declares Keyword.string.render)
    (parameter : Parameter) :
    (parameterType context parameter).Yields
      (FaithfulType context.catalog Key (ParameterDenotes context parameter)) := by
  rw [parameterType_eq]
  refine (yields_statedType admits context parameter).bind fun type faithful => .pure ?_
  by_cases asked : asksTemplate context parameter
  · by_cases text : type = .keyword .string
    · subst text
      have template : templated context.options parameter (.keyword .string) = .template := by
        unfold templated
        dsimp only
        rw [asked.1, asked.2]
        rfl
      rw [template]
      exact ⟨.template, .template asked faithful.denotes⟩
    · rw [templated_of_ne text]
      refine ⟨faithful.sound, .plain ?_ faithful.denotes⟩
      rintro ⟨_, tree⟩
      exact text (eq_string_of_tree free faithful.sound tree)
  · have same : templated context.options parameter type = type := by
      unfold templated
      split
      · rw [if_neg]
        intro both
        rw [Bool.and_eq_true, beq_iff_eq] at both
        exact asked both
      · rfl
    rw [same]
    exact ⟨faithful.sound, .plain (fun both => asked both.1) faithful.denotes⟩

theorem yields_parameterMember
    (free : ¬ context.catalog.Declares Keyword.string.render)
    (parameter : Parameter) :
    (parameterMember context parameter).Yields
      (FaithfulMember context.catalog Key
        (FieldOf (.quoted parameter.name) (!parameter.required)
          (ParameterDenotes context parameter))) := by
  refine (yields_parameterType admits free parameter).bind fun type faithful => ?_
  refine (yields_comment (isWritten_parameterComment _ _)).bind fun comment silent => .pure ?_
  exact faithful.member (admits.ofSchema (.quoted parameter.name) trivial) _ silent

/-! ## Parameters -/

/-- The member of a place that is used, or none. -/
def PlaceYields (context : Context) (Key : MemberKey → Prop) (parameters : List Parameter)
    (place : Place) (found : Option (Member TypeExpr)) : Prop :=
  if (atPlace parameters place).isEmpty then found = none
  else ∃ member, found = some member ∧
    FaithfulMember context.catalog Key (PlaceDenotes context parameters place) member

theorem yields_placeMember
    (free : ¬ context.catalog.Declares Keyword.string.render)
    (parameters : List Parameter)
    (place : Place) :
    (placeMember context parameters place).Yields (PlaceYields context Key parameters place) := by
  have each := Traced.Yields.sequence fun parameter (_ : parameter ∈ atPlace parameters place) =>
    yields_parameterMember admits free parameter
  have word : isWord place.key.toList = true := by cases place <;> rfl
  have here :
      parameters.filter (fun parameter => parameter.location == place.key) =
        atPlace parameters place := rfl
  unfold placeMember PlaceYields PlaceDenotes
  rw [here]
  generalize atPlace parameters place = found at each ⊢
  cases found with
  | nil => exact .pure rfl
  | cons first rest =>
      refine each.bind fun members faithful => .pure ⟨_, rfl, ?_⟩
      exact (faithful_object faithful).member (admits.word _ word) _ silent_nil

omit admits in
theorem ofKey?_eq_none_iff (location : String) :
    Place.ofKey? location = none ↔ ∀ place : Place, (location == place.key) = false := by
  unfold Place.ofKey?
  rw [List.find?_eq_none]
  constructor
  · intro none place
    have listed : place ∈ Place.all := by cases place <;> decide
    rw [Bool.eq_false_iff, ne_eq, BEq.comm]
    exact none place listed
  · intro none place _
    rw [BEq.comm, none place]
    exact Bool.false_ne_true

omit admits in
/-- No place is used exactly if no parameter has one. -/
theorem usedPlaces_eq_nil_iff (parameters : List Parameter) :
    usedPlaces parameters = [] ↔
      ∀ parameter ∈ parameters, Place.ofKey? parameter.location = none := by
  unfold usedPlaces
  rw [List.filter_eq_nil_iff]
  constructor
  · intro unused parameter listed
    rw [ofKey?_eq_none_iff]
    intro place
    have known : place ∈ Place.all := by cases place <;> decide
    have empty := unused place known
    rw [Bool.not_eq_true, Bool.not_eq_false', List.isEmpty_iff] at empty
    exact Bool.eq_false_iff.mpr (List.filter_eq_nil_iff.mp empty parameter listed)
  · intro strays place _
    rw [Bool.not_eq_true, Bool.not_eq_false', List.isEmpty_iff]
    unfold atPlace
    rw [List.filter_eq_nil_iff]
    intro parameter listed
    rw [(ofKey?_eq_none_iff _).mp (strays parameter listed) place]
    exact Bool.false_ne_true

omit admits in
theorem usedPlaces_ne_nil_iff (parameters : List Parameter) :
    usedPlaces parameters ≠ [] ↔
      ∃ parameter ∈ parameters, Place.ofKey? parameter.location ≠ none := by
  rw [ne_eq, usedPlaces_eq_nil_iff]
  push Not
  rfl

omit admits in
/-- The members of places are those of the places that are used. -/
theorem forall₂_usedPlaces
    {parameters : List Parameter}
    {places : List Place}
    {groups : List (Option (Member TypeExpr))}
    (each : List.Forall₂ (PlaceYields context Key parameters) places groups) :
    List.Forall₂
      (fun place => FaithfulMember context.catalog Key (PlaceDenotes context parameters place))
      (places.filter fun place => !(atPlace parameters place).isEmpty) (groups.filterMap id) := by
  refine forall₂_filter_iff.mpr ⟨groups, each.imp ?_, rfl⟩
  intro place found yields
  unfold PlaceYields at yields
  by_cases empty : (atPlace parameters place).isEmpty = true
  · rw [if_pos empty] at yields
    rw [yields]
    exact .none (by simp [empty])
  · rw [if_neg empty] at yields
    obtain ⟨member, rfl, faithful⟩ := yields
    exact .some (by simp [empty]) faithful

theorem yields_parametersMember
    (free : ¬ context.catalog.Declares Keyword.string.render)
    (item : PathItem)
    (operation : Operation) :
    (parametersMember context item operation).Yields fun found =>
      FaithfulMembers context.catalog Key
        (ParametersDenote context (item.parameters ++ operation.parameters)) found.toList := by
  have each := Traced.Yields.sequence
    fun node (_ : node ∈ item.parameters ++ operation.parameters) =>
      Traced.Yields.ofReferred (resolveParameter context node)
  refine each.bind fun found resolved => ?_
  have resolves : ResolvesTo context (item.parameters ++ operation.parameters)
      (mergeParameters found) := ⟨found, resolved, rfl⟩
  dsimp only
  generalize mergeParameters found = parameters at resolves
  intro result finished
  obtain ⟨_, _, finished⟩ := Traced.exists_of_result_bind finished
  obtain ⟨groups, grouped, finished⟩ := Traced.exists_of_result_bind finished
  have groupsYield := Traced.Yields.sequence
    (fun place (_ : place ∈ Place.all) => yields_placeMember admits free parameters place)
    groups grouped
  have members := forall₂_usedPlaces groupsYield
  have places : (Place.all.filter fun place => !(atPlace parameters place).isEmpty) =
      usedPlaces parameters := rfl
  rw [places] at members
  generalize groups.filterMap id = found at members finished
  have empty := isEmpty_of_forall₂ members
  cases found with
  | nil =>
      cases Traced.eq_of_result_pure finished
      have unused : usedPlaces parameters = [] := List.isEmpty_iff.mp empty.symm
      exact ⟨nofun, .none resolves ((usedPlaces_eq_nil_iff parameters).mp unused)⟩
  | cons first rest =>
      cases Traced.eq_of_result_pure finished
      have used : usedPlaces parameters ≠ [] := List.isEmpty_eq_false_iff.mp empty.symm
      have placed := (usedPlaces_ne_nil_iff parameters).mp used
      have faithful := (faithful_object members).member
        (admits.word "parameters" rfl) false silent_nil
      refine ⟨?_, .some resolves placed faithful.denotes⟩
      rintro _ listed
      cases List.mem_singleton.mp listed
      exact faithful.sound

/-! ## Request bodies and responses -/

theorem yields_requestBodyMember (context : Context) (operation : Operation) :
    (requestBodyMember context operation).Yields fun found =>
      FaithfulMembers context.catalog Key (RequestBodyDenotes context operation) found.toList := by
  unfold requestBodyMember
  cases given : operation.requestBody with
  | none => exact .pure ⟨nofun, .none given⟩
  | some node =>
      dsimp only
      refine (Traced.Yields.ofReferred _).bind fun body resolved => ?_
      refine (yields_contentType admits context body.content).bind fun type faithful => ?_
      refine (yields_comment (isWritten_note _ _)).bind fun comment silent => .pure ?_
      have member := faithful.member (admits.word "requestBody" rfl) (!body.required) silent
      refine ⟨?_, .some given resolved member.denotes⟩
      intro other listed
      cases List.mem_singleton.mp listed
      exact member.sound

theorem yields_responseMember
    (context : Context)
    {entry : String × OrReference Response}
    (admitted : Key (statusKey entry.1)) :
    (responseMember context entry).Yields
      (FaithfulMember context.catalog Key
        (FieldOf (statusKey entry.1) false (ResponseDenotes context entry.2))) := by
  rw [responseMember_eq]
  refine (Traced.Yields.ofReferred _).bind fun response resolved => ?_
  have typed : (responseType context response).Yields
      (FaithfulType context.catalog Key (ResponseDenotes context entry.2)) := by
    unfold responseType
    by_cases empty : response.content.isEmpty = true
    · rw [if_pos empty]
      exact .pure ⟨.keyword .void, .void resolved (List.isEmpty_iff.mp empty)⟩
    · rw [if_neg empty]
      intro type finished
      obtain ⟨sound, denotes⟩ := yields_contentType admits context _ type finished
      exact ⟨sound, .content resolved (fun nil => empty (List.isEmpty_iff.mpr nil)) denotes⟩
  refine typed.bind fun type faithful => ?_
  refine (yields_comment (isWritten_note _ _)).bind fun comment silent => .pure ?_
  exact faithful.member admitted false silent

theorem yields_responsesMember
    (context : Context)
    {operation : Operation}
    (statuses : ∀ entry ∈ operation.responses, Key (statusKey entry.1)) :
    (responsesMember context operation).Yields
      (FaithfulMember context.catalog Key
        (FieldOf (.word "responses") false (ResponsesDenote context operation))) := by
  have each := Traced.Yields.sequence fun entry listed =>
    yields_responseMember admits context (statuses entry listed)
  refine each.bind fun members faithful => .pure ?_
  have typed : FaithfulType context.catalog Key (ResponsesDenote context operation)
      (.objectOr .never members) := by
    unfold TypeExpr.objectOr
    cases given : operation.responses with
    | nil =>
        rw [given] at faithful
        cases faithful
        exact ⟨.record .never, .none given⟩
    | cons entry rest =>
        have filled : operation.responses ≠ [] := by
          rw [given]
          exact List.cons_ne_nil entry rest
        have object := faithful_object faithful
        rw [given] at faithful
        cases faithful with
        | cons => exact ⟨object.sound, .some filled object.denotes⟩
  exact typed.member (admits.word "responses" rfl) false silent_nil

/-! ## Operations and paths -/

theorem yields_operationMember
    (free : ¬ catalog.Declares Keyword.string.render)
    (options : Options)
    (path : String)
    (item : PathItem)
    {entry : Method × Operation}
    (statuses : ∀ response ∈ entry.2.responses, Key (statusKey response.1)) :
    (operationMember catalog options path item entry).Yields
      (FaithfulMember catalog Key
        (FieldOf (.word entry.1.key) false
          (OperationDenotes ⟨catalog, options, some (operationLocation path entry.1)⟩ item
            entry.2))) := by
  let context : Context := ⟨catalog, options, some (operationLocation path entry.1)⟩
  have word : isWord entry.1.key.toList = true := by cases entry.1 <;> rfl
  have parametersYield : (parametersMember context item entry.2).Yields _ :=
    yields_parametersMember admits free item entry.2
  refine parametersYield.bind fun parameters takes => ?_
  refine (yields_requestBodyMember admits context entry.2).bind fun requestBody sends => ?_
  refine (yields_responsesMember admits context statuses).bind fun responses answers => ?_
  refine (yields_comment (isWritten_operationComment _ _)).bind fun comment silent => .pure ?_
  have typed : FaithfulType catalog Key (OperationDenotes context item entry.2)
      (.object (parameters.toList ++ requestBody.toList ++ [responses])) := by
    refine ⟨TypeExpr.sound_object ?_, ?_⟩
    · intro member listed
      rcases List.mem_append.mp listed with before | last
      · rcases List.mem_append.mp before with taken | sent
        · exact takes.sound member taken
        · exact sends.sound member sent
      · cases List.mem_singleton.mp last
        exact answers.sound
    · rw [TypeExpr.tree_object, List.map_append, List.map_append]
      exact .mk takes.denotes sends.denotes answers.denotes
  exact typed.member (admits.word _ word) false silent

theorem yields_pathMember
    (free : ¬ catalog.Declares Keyword.string.render)
    (options : Options)
    {entry : String × PathItem}
    (statuses : ∀ method ∈ entry.2.operations, ∀ response ∈ method.2.responses,
      Key (statusKey response.1)) :
    (pathMember catalog options entry).Yields
      (FaithfulMember catalog Key
        (FieldOf (.quoted entry.1) false (PathDenotes catalog options entry))) := by
  have quoted := admits.ofSchema (.quoted entry.1) trivial
  have each := Traced.Yields.sequence fun method listed =>
    yields_operationMember admits free options entry.1 entry.2 (statuses method listed)
  unfold pathMember
  cases given : entry.2.operations with
  | nil =>
      intro member finished
      obtain ⟨_, _, finished⟩ := Traced.exists_of_result_bind finished
      cases Traced.eq_of_result_pure finished
      have typed : FaithfulType catalog Key (PathDenotes catalog options entry) (.record .never) :=
        ⟨.record .never, .none given⟩
      exact typed.member quoted false silent_nil
  | cons method rest =>
      rw [given] at each
      refine each.bind fun members faithful => .pure ?_
      have object := faithful_object faithful
      have typed : FaithfulType catalog Key (PathDenotes catalog options entry)
          (.object members) := by
        refine ⟨object.sound, .some ?_ ?_⟩
        · rw [given]
          exact List.cons_ne_nil method rest
        · rw [given]
          exact object.denotes
      exact typed.member quoted false silent_nil

/-- The members of all paths make up an object that they denote. -/
theorem yields_pathMembers
    {description : Description}
    (options : Options)
    (statuses : ∀ status ∈ description.statuses, Key (statusKey status)) :
    (Traced.sequence
      (description.paths.map (pathMember (.ofDescription description) options))).Yields
      fun members => FaithfulType (.ofDescription description) Key
        (SurfaceDenotes (.ofDescription description) options) (.object members) := by
  have free : ¬ (Catalog.ofDescription description).Declares Keyword.string.render :=
    fun declares => absurd (Catalog.declares_spec declares).2 (by decide)
  have each := Traced.Yields.sequence fun path (onPath : path ∈ description.paths) =>
    yields_pathMember admits free options fun method ofPath response listed =>
      statuses response.1 (Description.mem_statuses onPath ofPath listed)
  exact fun members finished => faithful_object (each members finished)

end Faithful

/-- The declaration of all paths has the object of their members as its body. -/
theorem result_pathsDeclaration
    {catalog : Catalog}
    (options : Options)
    (nonempty : catalog.description.paths ≠ []) :
    (pathsDeclaration catalog options).result =
      (Traced.sequence
        (catalog.description.paths.map (pathMember catalog options))).result.map fun members =>
          some {
            name := pathsName
            kind := if options.exportType then .type else .interface
            body := TypeExpr.render 0 (.object members) } := by
  unfold pathsDeclaration
  split
  · rename_i none
    exact absurd none nonempty
  · rw [Traced.result_bind]
    rfl

end Typing
end ApiTypings
