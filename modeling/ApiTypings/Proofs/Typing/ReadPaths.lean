import ApiTypings.Proofs.Typing.FaithfulPaths

/-!
# The text of all paths is read as what they denote

The members of the type are the paths of the document with their methods and statuses, so
every status is a key in the tree that they denote. A status that consists of digits is
written without quotes, and hence is read only if it is a number.
-/

namespace ApiTypings
namespace Document

/-- Whether a method is defined in the entries of a path. -/
def Method.isDefined (entries : List (String × Value)) (method : Method) : Bool :=
  ((entries.lookup method.key).bind Value.mapping?).isSome

/-- The operations of a path are those of the methods that are defined, in the order of
methods. -/
theorem methods_ofEntries (entries : List (String × Value)) :
    (PathItem.ofEntries entries).operations.map Prod.fst =
      Method.all.filter (Method.isDefined entries) := by
  rw [PathItem.ofEntries, List.map_filterMap, ← List.filterMap_eq_filter]
  congr 1
  funext method
  unfold Option.guard Method.isDefined
  cases found : entries.lookup method.key with
  | none => simp [found]
  | some value => cases value <;> simp [found, Value.mapping?]

/-- The paths of a document are the entries under `paths`, with the methods defined there. -/
theorem paths_ofValue (document : Value) :
    (Description.ofValue document).paths.map
        (fun path => (path.1, path.2.operations.map Prod.fst)) =
      (mappingAt (document.mapping?.getD []) "paths").map fun entry =>
        (entry.1, Method.all.filter (Method.isDefined (entry.2.mapping?.getD []))) := by
  rw [Description.ofValue, Description.ofEntries]
  dsimp only
  rw [readMap, List.map_map]
  apply List.map_congr_left
  intro entry _
  exact congrArg _ (methods_ofEntries _)

end Document

namespace Typing

open Component Document TypeScript

/-! ## Statuses are keys -/

section HasKey

variable {key : MemberKey}

/-- An object has the key of each of its fields, and the keys of their types. -/
theorem ObjectOf.hasKey
    {α : Type}
    {Denoted : α → TypeScript.Field Tree → Prop}
    {items : List α}
    {tree : Tree}
    (object : ObjectOf Denoted items tree)
    {item : α}
    (listed : item ∈ items)
    (has : ∀ field, Denoted item field → field.key = key ∨ field.type.HasKey key) :
    tree.HasKey key := by
  obtain ⟨each⟩ := object
  obtain ⟨field, inFields, denotes⟩ := exists_right_of_forall₂ each listed
  rcases has field denotes with here | inside
  · exact .here inFields here
  · exact .inside inFields inside

theorem FieldOf.hasKey
    {own : MemberKey}
    {optional : Bool}
    {Denoted : Tree → Prop}
    {field : TypeScript.Field Tree}
    (denotes : FieldOf own optional Denoted field)
    (has : ∀ tree, Denoted tree → tree.HasKey key) :
    field.type.HasKey key := by
  obtain ⟨denotes⟩ := denotes
  exact has _ denotes

end HasKey

theorem ResponsesDenote.hasKey
    {context : Context}
    {operation : Operation}
    {tree : Tree}
    (denotes : ResponsesDenote context operation tree)
    {entry : String × OrReference Response}
    (listed : entry ∈ operation.responses) :
    tree.HasKey (statusKey entry.1) := by
  cases denotes with
  | none missing =>
      rw [missing] at listed
      contradiction
  | some _ denotes =>
      refine denotes.hasKey listed ?_
      rintro _ ⟨_⟩
      exact .inl rfl

theorem OperationDenotes.hasKey
    {context : Context}
    {item : PathItem}
    {operation : Operation}
    {tree : Tree}
    (denotes : OperationDenotes context item operation tree)
    {entry : String × OrReference Response}
    (listed : entry ∈ operation.responses) :
    tree.HasKey (statusKey entry.1) := by
  obtain ⟨_, _, answers⟩ := denotes
  refine .inside (List.mem_append_right _ (List.mem_singleton_self _)) ?_
  exact answers.hasKey fun _ denoted => denoted.hasKey listed

/-- Every status is a key in what the paths denote. -/
theorem SurfaceDenotes.hasKey
    {catalog : Catalog}
    {options : Options}
    {tree : Tree}
    (denotes : SurfaceDenotes catalog options tree)
    {status : String}
    (listed : status ∈ catalog.description.statuses) :
    tree.HasKey (statusKey status) := by
  obtain ⟨path, onPath, listed⟩ := List.mem_flatMap.mp listed
  obtain ⟨method, ofPath, listed⟩ := List.mem_flatMap.mp listed
  obtain ⟨entry, ofMethod, rfl⟩ := List.mem_map.mp listed
  refine ObjectOf.hasKey denotes onPath fun field ofField => .inr (ofField.hasKey ?_)
  intro inner denoted
  cases denoted with
  | none idle =>
      rw [idle] at ofPath
      contradiction
  | some _ operations =>
      exact operations.hasKey ofPath fun _ ofField =>
        .inr (ofField.hasKey fun _ denoted => denoted.hasKey ofMethod)

/-! ## Keys that are read -/

/-- A key whose text is read as the key. -/
def KeyReads (key : MemberKey) : Prop :=
  Spells key.render.toList key.tokens ∧ ReadsKey key.tokens key

theorem admitsWords_keyReads : AdmitsWords KeyReads where
  ofSchema _ kept := reads_key_ofSchema kept
  word name word := by
    have spells := spells_word word
    have tokens : (MemberKey.word name).tokens = [.word name] := by
      rw [MemberKey.tokens, spells.tokens_eq, String.ofList_toList]
    rw [String.ofList_toList] at spells
    rw [KeyReads, tokens]
    exact ⟨spells, .word name⟩

/-- A status that does not consist of digits is read as a key, and so is one that is a
number. -/
theorem keyReads_statusKey
    {status : String}
    (decimal : Text.allDigits status.toList = true → isDecimal status.toList = true) :
    KeyReads (statusKey status) := by
  unfold statusKey
  split
  · rename_i unquoted
    rcases Bool.or_eq_true_iff.mp unquoted with digits | default
    · have plain := isPlain_statusKey status
      rw [statusKey, if_pos unquoted] at plain
      exact ⟨plain.spells, reads_digits digits (decimal digits)⟩
    · rw [beq_iff_eq.mp default]
      exact admitsWords_keyReads.word "default" rfl
  · exact admitsWords_keyReads.ofSchema (.quoted status) trivial

/-! ## All paths -/

/-- Where paths are read as what they denote, statuses that consist of digits are numbers. -/
theorem isDecimal_of_parses_surface
    {catalog : Catalog}
    {options : Options}
    {tree : Tree}
    (denotes : SurfaceDenotes catalog options tree)
    {body : String}
    (parses : Parses body tree)
    {status : String}
    (listed : status ∈ catalog.description.statuses)
    (digits : Text.allDigits status.toList = true) :
    isDecimal status.toList = true := by
  have legible := parses.isLegible_of_hasKey (denotes.hasKey listed)
  rw [statusKey, if_pos (by rw [digits]; rfl)] at legible
  exact isLegible_of_digits digits legible

/-- The tree that is denoted by the paths, if their declaration is found. -/
theorem exists_tree_of_pathsDeclaration
    {description : Description}
    {options : Options}
    (nonempty : description.paths ≠ [])
    {found : Option Declaration}
    (finished : (pathsDeclaration (.ofDescription description) options).result = .ok found) :
    ∃ members declaration, found = some declaration ∧
      declaration.body = TypeExpr.render 0 (.object members) ∧
      SurfaceDenotes (.ofDescription description) options (TypeExpr.tree (.object members)) ∧
      ((∀ status ∈ description.statuses, KeyReads (statusKey status)) →
        TypeExpr.Sound (Catalog.ofDescription description).Declares KeyReads (.object members)) := by
  rw [result_pathsDeclaration options nonempty] at finished
  obtain ⟨members, typed, declared⟩ := exists_of_map_eq_ok finished
  have always : AdmitsWords fun _ => True := ⟨fun _ _ => trivial, fun _ _ => trivial⟩
  have faithful := yields_pathMembers always options (fun _ _ => trivial) members typed
  exact ⟨members, _, declared.symm, rfl, faithful.denotes, fun statuses =>
    (yields_pathMembers admitsWords_keyReads options statuses members typed).sound⟩

/-- Where the names of declarations are words, the paths of a document denote exactly one
tree: one field for every path of the document, in order, and below it one for every method
that is defined there, in the order of methods. The text is read as this tree and as nothing
else, unless there is a number in it that is not finite, or a status that consists of digits
and is no number. -/
theorem parses_iff_surface
    (document : Value)
    (options : Options)
    (words : ∀ name, (Catalog.ofDescription (.ofValue document)).Declares name →
      isWord name.toList = true)
    (nonempty : (Description.ofValue document).paths ≠ [])
    {found : Option Declaration}
    (finished :
      (pathsDeclaration (.ofDescription (.ofValue document)) options).result = .ok found) :
    ∃ declaration tree, found = some declaration ∧
      (Description.ofValue document).paths.map
          (fun path => (path.1, path.2.operations.map Prod.fst)) =
        (mappingAt (document.mapping?.getD []) "paths").map (fun entry =>
          (entry.1, Method.all.filter (Method.isDefined (entry.2.mapping?.getD [])))) ∧
      (∀ other, SurfaceDenotes (.ofDescription (.ofValue document)) options other ↔
        other = tree) ∧
      ((∀ other, Parses declaration.body other ↔ other = tree) ↔
        tree.Finite ∧ ∀ status ∈ (Description.ofValue document).statuses,
          Text.allDigits status.toList = true → isDecimal status.toList = true) := by
  obtain ⟨members, declaration, declared, body, denotes, sound⟩ :=
    exists_tree_of_pathsDeclaration nonempty finished
  refine ⟨declaration, TypeExpr.tree (.object members), declared, paths_ofValue document, ?_, ?_⟩
  · intro other
    constructor
    · exact SurfaceDenotes.atMostOne _ _ _ _ denotes
    · rintro rfl
      exact denotes
  · rw [body]
    constructor
    · intro reads
      have parses := (reads _).mpr rfl
      exact ⟨parses.finite, fun _ listed => isDecimal_of_parses_surface denotes parses listed⟩
    · rintro ⟨finite, decimal⟩
      have sound := sound fun status listed => keyReads_statusKey (decimal status listed)
      exact (sound.parses_iff words (fun _ reads => reads) 0).mpr finite

/-- A path with a quotation mark and no method, and an operation with a parameter and two
responses. -/
theorem parses_iff_surface_of_quoted_path :
    let operation : List (String × Value) :=
      [("parameters", .list [.mapping [("name", .text "b"), ("in", .text "path")]]),
        ("responses", .mapping [("200", .mapping []),
          ("4XX", .mapping [("content", .mapping [("d", .mapping [])])])])]
    let document : Value := .mapping [("paths", .mapping
      [("/a", .mapping [("get", .mapping operation)]), ("/\"", .mapping [])])]
    let body := "\x7b\n  \"/a\": \x7b\n    get: \x7b\n      parameters: \x7b\n        path?: \x7b\n" ++
      "          \"b\"?: unknown;\n        \x7d;\n      \x7d;\n      responses: \x7b\n" ++
      "        200: void;\n        \"4XX\": unknown;\n      \x7d;\n    \x7d;\n  \x7d;\n" ++
      "  \"/\\\"\": Record<string, never>;\n\x7d"
    let parameters : Tree :=
      .object [⟨.word "path", .object [⟨.quoted "b", .name "unknown", true, false⟩], true, false⟩]
    let responses : Tree :=
      .object [⟨.word "200", .name "void", false, false⟩,
        ⟨.quoted "4XX", .name "unknown", false, false⟩]
    let get : Tree :=
      .object [⟨.word "parameters", parameters, false, false⟩,
        ⟨.word "responses", responses, false, false⟩]
    (∀ name, (Catalog.ofDescription (.ofValue document)).Declares name →
        isWord name.toList = true) ∧
      (pathsDeclaration (.ofDescription (.ofValue document)) {}).result =
        .ok (some ⟨"paths", .interface, body, []⟩) ∧
      ∀ tree, Parses body tree ↔ tree = .object
        [⟨.quoted "/a", .object [⟨.word "get", get, false, false⟩], false, false⟩,
          ⟨.quoted "/\"", .generic "Record" [.name "string", .name "never"], false, false⟩] := by
  intro operation document body parameters responses get
  have words : ∀ name, (Catalog.ofDescription (.ofValue document)).Declares name →
      isWord name.toList = true := by
    rintro name ⟨key, listed⟩
    have names : (Catalog.ofDescription (.ofValue document)).names = [] := by cbv
    rw [names] at listed
    contradiction
  have nonempty : (Description.ofValue document).paths ≠ [] := List.cons_ne_nil _ _
  let place : TypeExpr := .object [⟨.quoted "b", .keyword .unknown, true, false, []⟩]
  let taken : TypeExpr := .object [⟨.word "path", place, true, false, []⟩]
  let answered : TypeExpr := .object
    [⟨.word "200", .keyword .void, false, false, []⟩,
      ⟨.quoted "4XX", .keyword .unknown, false, false, []⟩]
  let method : TypeExpr := .object
    [⟨.word "parameters", taken, false, false, []⟩, ⟨.word "responses", answered, false, false, []⟩]
  let members : List (Member TypeExpr) :=
    [⟨.quoted "/a", .object [⟨.word "get", method, false, false, []⟩], false, false, []⟩,
      ⟨.quoted "/\"", .record .never, false, false, []⟩]
  have typed : (Traced.sequence ((Description.ofValue document).paths.map
      (pathMember (.ofDescription (.ofValue document)) {}))).result = .ok members := by cbv
  have rendered : TypeExpr.render 0 (.object members) = body := by decide +kernel
  have finished : (pathsDeclaration (.ofDescription (.ofValue document)) {}).result =
      .ok (some ⟨"paths", .interface, body, []⟩) := by
    rw [result_pathsDeclaration {} nonempty, ← rendered]
    change Except.map _ (Traced.sequence ((Description.ofValue document).paths.map
      (pathMember (.ofDescription (.ofValue document)) {}))).result = _
    rw [typed]
    rfl
  obtain ⟨declaration, tree, declared, _, denoted, reads⟩ :=
    parses_iff_surface document {} words nonempty finished
  cases declared
  have always : AdmitsWords fun _ => True := ⟨fun _ _ => trivial, fun _ _ => trivial⟩
  have denotes := (yields_pathMembers always {} (fun _ _ => trivial) members typed).denotes
  rw [← (denoted _).mp denotes] at reads
  refine ⟨words, finished, reads.mpr ⟨?_, by decide⟩⟩
  have finiteParameters : parameters.Finite :=
    .object (List.forall_mem_singleton.mpr (.object (List.forall_mem_singleton.mpr (.name _))))
  have finiteResponses : responses.Finite :=
    .object (List.forall_mem_cons.mpr ⟨.name _, List.forall_mem_singleton.mpr (.name _)⟩)
  have finiteGet : get.Finite :=
    .object (List.forall_mem_cons.mpr
      ⟨finiteParameters, List.forall_mem_singleton.mpr finiteResponses⟩)
  have finiteRecord : (Tree.generic "Record" [.name "string", .name "never"]).Finite :=
    .generic _ (List.forall_mem_cons.mpr ⟨.name _, List.forall_mem_singleton.mpr (.name _)⟩)
  exact .object (List.forall_mem_cons.mpr ⟨.object (List.forall_mem_singleton.mpr finiteGet),
    List.forall_mem_singleton.mpr finiteRecord⟩)

/-- A status that is a digit but no number is written without quotes, and then the text is
not read as what the paths denote. -/
theorem not_parses_superscript_status :
    let document : Value := .mapping [("paths", .mapping [("/a", .mapping [("get", .mapping
      [("responses", .mapping [("²", .mapping [])])])])])]
    (∀ name, (Catalog.ofDescription (.ofValue document)).Declares name →
        isWord name.toList = true) ∧
      (Description.ofValue document).paths ≠ [] ∧
      ∃ declaration tree,
        (pathsDeclaration (.ofDescription (.ofValue document)) {}).result =
          .ok (some declaration) ∧
        SurfaceDenotes (.ofDescription (.ofValue document)) {} tree ∧
        ¬ Parses declaration.body tree := by
  intro document
  have nonempty : (Description.ofValue document).paths ≠ [] := List.cons_ne_nil _ _
  have finished : (pathsDeclaration (.ofDescription (.ofValue document)) {}).result =
      .ok (some ⟨"paths", .interface,
        "\x7b\n  \"/a\": \x7b\n    get: \x7b\n      responses: \x7b\n        ²: void;\n" ++
        "      \x7d;\n    \x7d;\n  \x7d;\n\x7d", []⟩) := by cbv
  obtain ⟨members, declaration, declared, _, denotes, _⟩ :=
    exists_tree_of_pathsDeclaration nonempty finished
  cases declared
  refine ⟨?_, nonempty, _, _, finished, denotes, ?_⟩
  · rintro name ⟨key, listed⟩
    have names : (Catalog.ofDescription (.ofValue document)).names = [] := by cbv
    rw [names] at listed
    contradiction
  · intro parses
    have listed : "²" ∈ (Description.ofValue document).statuses := List.mem_singleton_self _
    exact absurd (isDecimal_of_parses_surface denotes parses listed (by decide)) (by decide)

end Typing
end ApiTypings
