import ApiTypings.Proofs.TypeScript.ModuleText
import ApiTypings.Proofs.Typing.Interfaces
import ApiTypings.Proofs.Typing.UncommentedPaths

/-!
# Modules do not depend on comments

Under options that differ in comments only, a document fails in the same way or is
written with the same tokens. The only exception is an example that is asked for
under one of the options and cannot be written.
-/

namespace ApiTypings
namespace Typing

open Component Document TypeScript

/-- Two declarations of one name are written with the same tokens. -/
structure TwinDeclaration (one another : Declaration) : Prop where
  name : one.name = another.name
  spells : Spells one.render.toList (tokens one.render.toList)
  spellsOther : Spells another.render.toList (tokens another.render.toList)
  tokens : tokens one.render.toList = tokens another.render.toList

/-- Declarations are twins if only their comments and the texts of their bodies differ. -/
theorem twinDeclaration_of_bodies
    {one another : Declaration}
    (name : one.name = another.name)
    (kind : one.kind = another.kind)
    (named : Spells one.name.toList (tokens one.name.toList))
    (silent : Silent one.comment)
    (silentOther : Silent another.comment)
    {body : List Token}
    (spells : Spells one.body.toList body)
    (spellsOther : Spells another.body.toList body) :
    TwinDeclaration one another := by
  have first := spells_declaration silent named spells
  have second := spells_declaration silentOther (name ▸ named) spellsOther
  have same : one.tokens body = another.tokens body := by
    unfold Declaration.tokens
    rw [name, kind]
  refine ⟨name, ?_, ?_, ?_⟩
  · rw [first.tokens_eq]
    exact first
  · rw [second.tokens_eq]
    exact second
  · rw [first.tokens_eq, second.tokens_eq, same]

variable {description : Description} {options other : Options}

/-- The texts of twins spell the same tokens. -/
theorem Twin.spells
    {one another : TypeExpr}
    (twin : Twin (.ofDescription description) one another)
    (level : Nat) :
    Spells (one.render level).toList one.tree.tokens ∧
      Spells (another.render level).toList one.tree.tokens := by
  have names : ∀ name, (Catalog.ofDescription description).Declares name →
      Spells name.toList (tokens name.toList) := fun _ declares => (nested_of_declares declares).1
  constructor
  · exact twin.sound.spells_render names (fun _ plain => plain.spells) level
  · rw [twin.tree]
    exact twin.soundOther.spells_render names (fun _ plain => plain.spells) level

/-! ## The declaration of all paths -/

theorem agrees_pathsDeclaration (plainer : Plainer options other) :
    Agrees (SpoiledBy description options other) (Option.Rel TwinDeclaration)
      (pathsDeclaration (.ofDescription description) options).result
      (pathsDeclaration (.ofDescription description) other).result := by
  have free : ¬ (Catalog.ofDescription description).Declares Keyword.string.render := by
    intro declares
    exact absurd (Catalog.declares_spec declares).2 (by decide)
  have each : ∀ path ∈ description.paths,
      Agrees (SpoiledBy description options other) (TwinMember (.ofDescription description))
        (pathMember (.ofDescription description) options path).result
        (pathMember (.ofDescription description) other path).result :=
    fun path onPath => agrees_pathMember plainer free onPath
  have paths : (Catalog.ofDescription description).description.paths = description.paths := rfl
  unfold pathsDeclaration
  rw [paths, plainer.exportType]
  generalize description.paths = found at each ⊢
  cases found with
  | nil => exact .ok .none
  | cons first rest =>
      refine .bind (.sequence each) ?_
      intro members others twins
      obtain ⟨spells, spellsOther⟩ := (twin_object twins).spells 0
      have named : Spells pathsName.toList (tokens pathsName.toList) := spells_plain rfl
      refine .ok (.some ?_)
      exact twinDeclaration_of_bodies rfl rfl named silent_nil silent_nil spells spellsOther

/-! ## Declarations of schemas -/

/-- Whether the body of a plain object starts with a brace depends on its tree only. -/
theorem startsWith_of_isPlainObject
    {context : Context}
    {stack : List Pointer}
    {schema : Schema}
    (plain : schema.isPlainObject = true)
    {type : TypeExpr}
    (finished : (typeOf context ⟨stack, .inline schema⟩).result = .ok type) :
    Text.startsWith ['{'] (type.render 0).toList =
      (type.tree.tokens.head? == some (.mark '{')) := by
  obtain ⟨core, plainCore, rfl⟩ := typeOf_of_isPlainObject plain finished
  rcases plainCore with ⟨word, rfl⟩ | ⟨members, rfl⟩
  · split
    · cases word <;> decide
    · cases word <;> decide
  · obtain ⟨inner, text⟩ := TypeExpr.toList_render_object 0 members
    split
    · rw [TypeExpr.toList_render_orNull, text, TypeExpr.tree_union]
      rfl
    · rw [text]
      rfl

/-- The kind of a declaration depends on the tree of its type only. -/
theorem declarationKind_eq
    (plainer : Plainer options other)
    {context contextOther : Context}
    {site : Site}
    {left right : TypeExpr}
    (typed : (typeOf context site).result = .ok left)
    (typedOther : (typeOf contextOther site).result = .ok right)
    (tree : left.tree = right.tree) :
    declarationKind options site.node (left.render 0) =
      declarationKind other site.node (right.render 0) := by
  obtain ⟨stack, node⟩ := site
  unfold declarationKind
  rw [plainer.exportType]
  cases node with
  | reference reference => simp [isPlainObject]
  | inline schema =>
      cases plain : schema.isPlainObject with
      | false => simp [isPlainObject, plain]
      | true =>
          have opened := startsWith_of_isPlainObject plain typed
          have openedOther := startsWith_of_isPlainObject plain typedOther
          rw [← tree, ← opened] at openedOther
          have brace : "\x7b".toList = ['{'] := rfl
          rw [brace, openedOther]

theorem agrees_declarationComment
    {context : Context}
    (plainer : Plainer context.options other)
    {node : Node}
    (held : context.catalog.description.HoldsNode node) :
    Agrees (context.Spoiled other) (fun left right => Silent left ∧ Silent right)
      (Traced.ofWritten (declarationComment context.options node)).result
      (Traced.ofWritten (declarationComment other node)).result := by
  cases node with
  | reference reference => exact .ok ⟨silent_nil, silent_nil⟩
  | inline schema =>
      apply (agrees_describe plainer held).and_ok.mono
      rintro comment commentOther ⟨_, written, writtenOther⟩
      exact ⟨silent_describe (Traced.ofWritten_eq_ok written),
        silent_describe (Traced.ofWritten_eq_ok writtenOther)⟩

theorem agrees_schemaDeclaration
    (plainer : Plainer options other)
    {entry : Pointer × String × Node}
    (listed : entry ∈ (Catalog.ofDescription description).declarations) :
    Agrees (SpoiledBy description options other) TwinDeclaration
      (schemaDeclaration (.ofDescription description) options entry).result
      (schemaDeclaration (.ofDescription description) other entry).result := by
  have named := (nested_of_declares (Catalog.declares_of_mem_declarations listed)).1
  have held : description.HoldsNode entry.2.2 := by
    obtain ⟨component, member, rfl⟩ := List.mem_map.mp listed
    apply Description.holdsNode_of_mem
    apply Description.mem_nodes_of_component
    exact List.mem_map.mpr ⟨component, member, rfl⟩
  obtain ⟨pointer, name, node⟩ := entry
  let context : Context := ⟨.ofDescription description, options, some pointer.text⟩
  have plainerHere : Plainer context.options other := plainer
  have typed : Agrees (context.Spoiled other) _ (typeOf context ⟨[pointer], node⟩).result _ :=
    agrees_typeOf plainerHere held
  refine .bind typed.and_ok ?_
  rintro left right ⟨twin, typed, typedOther⟩
  refine .bind (agrees_declarationComment plainerHere held) ?_
  rintro comment commentOther ⟨silent, silentOther⟩
  have kind := declarationKind_eq plainer typed typedOther twin.tree
  obtain ⟨spells, spellsOther⟩ := twin.spells 0
  exact .ok (twinDeclaration_of_bodies rfl kind named silent silentOther spells spellsOther)

/-- Declarations that are twins are so after they are sorted by name. -/
theorem forall₂_mergeSort
    {declarations others : List Declaration}
    (twins : List.Forall₂ TwinDeclaration declarations others) :
    List.Forall₂ TwinDeclaration
      (declarations.mergeSort fun one another => decide (one.name ≤ another.name))
      (others.mergeSort fun one another => decide (one.name ≤ another.name)) := by
  -- Both lists are projections of one list of pairs, which is sorted instead.
  obtain ⟨sameLength, related⟩ := List.forall₂_iff_zip.mp twins
  have names : ∀ pair ∈ declarations.zip others, pair.1.name = pair.2.name :=
    fun pair member => (related member).name
  have firsts : ((declarations.zip others).mergeSort fun one another =>
        decide (one.1.name ≤ another.1.name)).map Prod.fst =
      declarations.mergeSort fun one another => decide (one.name ≤ another.name) := by
    rw [List.map_mergeSort (s := fun one another => decide (one.name ≤ another.name)),
      List.map_fst_zip sameLength.le]
    intro _ _ _ _
    rfl
  have seconds : ((declarations.zip others).mergeSort fun one another =>
        decide (one.1.name ≤ another.1.name)).map Prod.snd =
      others.mergeSort fun one another => decide (one.name ≤ another.name) := by
    rw [List.map_mergeSort (s := fun one another => decide (one.name ≤ another.name)),
      List.map_snd_zip sameLength.ge]
    intro one member another memberOther
    rw [names one member, names another memberOther]
  rw [← firsts, ← seconds, List.forall₂_map_left_iff, List.forall₂_map_right_iff,
    List.forall₂_same]
  intro pair member
  exact related (List.mem_mergeSort.mp member)

theorem agrees_schemaDeclarations (plainer : Plainer options other) :
    Agrees (SpoiledBy description options other) (List.Forall₂ TwinDeclaration)
      (schemaDeclarations (.ofDescription description) options).result
      (schemaDeclarations (.ofDescription description) other).result := by
  refine .bind (.sequence fun entry listed => agrees_schemaDeclaration plainer listed) ?_
  intro declarations others twins
  refine .ok ?_
  rw [plainer.alphabetize]
  split
  · exact forall₂_mergeSort twins
  · exact twins

/-! ## Modules -/

/-- Twins make up modules of the same tokens. -/
theorem tokens_moduleText_of_twins
    (header : Bool)
    {declarations others : List Declaration}
    (twins : List.Forall₂ TwinDeclaration declarations others) :
    tokens (moduleText header declarations).toList = tokens (moduleText header others).toList := by
  rw [tokens_moduleText header, tokens_moduleText header, List.flatMap_def, List.flatMap_def]
  · apply congrArg List.flatten
    exact (map_eq_map_of_forall₂ (fun _ _ twin => twin.tokens.symm) twins).symm
  · intro declaration listed
    obtain ⟨_, _, twin⟩ := exists_left_of_forall₂ twins listed
    exact twin.spellsOther
  · intro declaration listed
    obtain ⟨_, _, twin⟩ := exists_right_of_forall₂ twins listed
    exact twin.spells

theorem agrees_generateFrom (plainer : Plainer options other) (description : Description) :
    Agrees (SpoiledBy description options other)
      (fun left right => tokens left.toList = tokens right.toList)
      (generateFrom description options).result (generateFrom description other).result := by
  refine .bind (Agrees.refl _) ?_
  intro _ _ _
  refine .bind (agrees_pathsDeclaration plainer) ?_
  intro paths pathsOther twinPaths
  refine .bind (agrees_schemaDeclarations plainer) ?_
  intro declarations others twins
  refine .ok ?_
  rw [plainer.header]
  apply tokens_moduleText_of_twins
  exact List.rel_append (forall₂_toList twinPaths) twins

/-- Under two options that differ in comments only, a document fails with the same
error or is written with the same tokens, unless one run ends at an example that cannot
be written and for which only this run asks. -/
theorem same_error_or_same_tokens
    (description : Description)
    {first second : Options}
    (same : first.uncommented = second.uncommented) :
    (∃ interruption, (generateFrom description first).result = .error interruption ∧
        (generateFrom description second).result = .error interruption) ∨
      (∃ left right, (generateFrom description first).result = .ok left ∧
        (generateFrom description second).result = .ok right ∧
        tokens left.toList = tokens right.toList) ∨
      (∃ interruption, SpoiledBy description first second interruption ∧
        (generateFrom description first).result = .error interruption) ∨
      ∃ interruption, SpoiledBy description second first interruption ∧
        (generateFrom description second).result = .error interruption := by
  by_cases fewer : second.includeExamples = true → first.includeExamples = true
  · have plainer : Plainer first second := ⟨same, fewer⟩
    rcases (agrees_generateFrom plainer description).outcomes with failed | written | spoiled
    · exact .inl failed
    · exact .inr (.inl written)
    · exact .inr (.inr (.inl spoiled))
  · obtain ⟨asked, unasked⟩ := Classical.not_imp.mp fewer
    have plainer : Plainer second first := ⟨same.symm, fun asks => absurd asks unasked⟩
    rcases (agrees_generateFrom plainer description).outcomes with failed | written | spoiled
    · obtain ⟨interruption, failed, failedOther⟩ := failed
      exact .inl ⟨interruption, failedOther, failed⟩
    · obtain ⟨left, right, written, writtenOther, equal⟩ := written
      exact .inr (.inl ⟨right, left, writtenOther, written, equal.symm⟩)
    · exact .inr (.inr (.inr spoiled))

/-- A description that would close its comment, open a string and name an operator. -/
theorem same_error_or_same_tokens_of_quote :
    let member : Schema :=
      { types := ["string"], description := some "*/ \" | null[] /* (" }
    let item : Schema :=
      { types := ["object"], properties := some [("a", .inline member)], nullable := true }
    let schema : Schema := { types := ["array"], items := some (.inline item) }
    let description : Description := { components := { schemas := [("A", .inline schema)] } }
    let commented : Options :=
      { header := false, includeDescriptions := true, includeExamples := true }
    Options.uncommented { header := false } = commented.uncommented ∧
      ∃ left right, (generateFrom description { header := false }).result = .ok left ∧
        (generateFrom description commented).result = .ok right ∧ left ≠ right ∧
        tokens left.toList = tokens right.toList := by
  intro member item schema description commented
  have same : Options.uncommented { header := false } = commented.uncommented := rfl
  have plainText : (generateFrom description { header := false }).result =
      .ok "export type A = (\x7b\n  \"a\"?: string;\n\x7d | null)[];\n" := by
    cbv
  have commentedText : (generateFrom description commented).result = .ok
      "export type A = (\x7b\n  /** *\\/ \" | null[] /* ( */\n  \"a\"?: string;\n\x7d | null)[];\n" := by
    cbv
  refine ⟨same, ?_⟩
  rcases same_error_or_same_tokens description same with failed | written | spoiled | spoiled
  · obtain ⟨interruption, failed, _⟩ := failed
    rw [plainText] at failed
    cases failed
  · obtain ⟨left, right, writtenLeft, writtenRight, equal⟩ := written
    refine ⟨left, right, writtenLeft, writtenRight, ?_, equal⟩
    rintro rfl
    rw [plainText] at writtenLeft
    rw [commentedText, ← writtenLeft] at writtenRight
    exact absurd (Except.ok.inj writtenRight) (by decide)
  · obtain ⟨interruption, _, failed⟩ := spoiled
    rw [plainText] at failed
    cases failed
  · obtain ⟨interruption, _, failed⟩ := spoiled
    rw [commentedText] at failed
    cases failed

/-- An example with a date as a key is asked for under one of the options, and the
document is written under the other only. -/
theorem not_same_of_moment_key :
    let sample : Value := .keyed [(.moment (.date ⟨2020, 1, 2⟩), .text "x")]
    let schema : Schema := { types := ["string"], sample := some sample }
    let description : Description := { components := { schemas := [("A", .inline schema)] } }
    let commented : Options := { header := false, includeExamples := true }
    let plain : Options := { header := false }
    commented.uncommented = plain.uncommented ∧
      (generateFrom description commented).result =
        .error (.unwritable (.momentKey (.date ⟨2020, 1, 2⟩))) ∧
      (generateFrom description plain).result = .ok "export type A = string;\n" := by
  intro sample schema description commented plain
  exact ⟨rfl, by cbv, by cbv⟩

end Typing
end ApiTypings
