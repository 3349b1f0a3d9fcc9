import ApiTypings.Proofs.Typing.Interfaces

/-!
# Merged objects

A tree of `allOf` with plain objects at its leaves has the type of one object, which is
put together from the leaves in order. How the leaves are nested makes no difference.
-/

namespace ApiTypings
namespace Document

open Typing

namespace Schema

/-- The object keywords of a schema, as a schema of their own. -/
def ownObject (schema : Schema) : Schema :=
  { types := ["object"]
    properties := schema.properties
    required := schema.required
    additional := schema.additional }

/-- The leaf of the object keywords beside a composition, if there are any. -/
def ownLeaf (schema : Schema) : List Schema :=
  if schema.hasObjectKeywords then [schema.ownObject] else []

/-- One object for several: the last type of a property wins at its first place, names
are required that one of the objects requires, and the last word on further keys counts. -/
def mergeOf (leaves : List Schema) : Schema :=
  { types := ["object"]
    properties := some (Entries.ofPairs (leaves.flatMap fun leaf => leaf.properties.getD []))
    required := (leaves.flatMap Schema.required).dedup
    additional := (leaves.filterMap Schema.additional).getLast? }

theorem isPlainObject_mergeOf (leaves : List Schema) : (mergeOf leaves).isPlainObject = true := by
  simp [isPlainObject, isComposed, declaresNull, mergeOf]

theorem isNullable_mergeOf (options : Options) (leaves : List Schema) :
    (mergeOf leaves).isNullable options = false := by
  simp [isNullable, declaresNull, mergeOf]

theorem isPlainObject_of_isMerge {schema : Schema} (merges : schema.isMerge = true) :
    schema.isPlainObject = false := by
  simp only [isMerge, Bool.and_eq_true] at merges
  simp [isPlainObject, isComposed, merges.1.1.1]

/-- A schema that merges others has no other clause. -/
theorem clauses_of_isMerge
    {schema : Schema}
    (merges : schema.isMerge = true)
    {branches : List Node}
    (given : schema.allOf = some branches) :
    schema.clauses = [.allOf branches] := by
  simp only [isMerge, Bool.and_eq_true, Option.isNone_iff_eq_none] at merges
  obtain ⟨⟨⟨_, noOneOf⟩, noAnyOf⟩, noNegation⟩ := merges
  simp [clauses, given, noOneOf, noAnyOf, noNegation]

end Schema

/-- A node is a tree of `allOf` that ends in plain objects. The leaves are listed from
left to right; the object keywords beside the branches of a schema are a leaf after
them. -/
inductive MergeTree (options : Options) : Node → List Schema → Prop
  | leaf {schema : Schema} (plain : schema.isPlainObject = true) :
      MergeTree options (.inline schema) [schema]
  | node
      {schema : Schema}
      {branches : List Node}
      {leavesOf : Node → List Schema}
      (merges : schema.isMerge = true)
      (present : schema.isNullable options = false)
      (given : schema.allOf = some branches)
      (each : ∀ branch ∈ branches, MergeTree options branch (leavesOf branch)) :
      MergeTree options (.inline schema) (branches.flatMap leavesOf ++ schema.ownLeaf)

end Document

namespace Typing

open Component Document TypeScript

/-! ## Bodies of leaves -/

theorem gather_eq_flatMap
    {α : Type}
    {items : List α}
    {bodiesOf : (item : α) → item ∈ items → Bodies}
    {own : α → List Body}
    (each : ∀ item member, bodiesOf item member = .ok (some (own item))) :
    gather items bodiesOf = .ok (some (items.flatMap own)) := by
  induction items with
  | nil => rfl
  | cons item rest hypothesis =>
      have others := hypothesis fun other member =>
        each other (List.mem_cons_of_mem item member)
      simp only [gather, each item List.mem_cons_self, others, List.flatMap_cons]

theorem siblings_eq_map (stack : List Pointer) (schema : Schema) :
    siblings stack schema = schema.ownLeaf.map (Body.ofSchema stack) := by
  unfold siblings Schema.ownLeaf
  split <;> rfl

theorem mergedBodies_eq_map
    {stack : List Pointer}
    {schema : Schema}
    {branches : List Node}
    {bodiesOf : (node : Node) → node ∈ branches → Bodies}
    {leavesOf : Node → List Schema}
    (each : ∀ node member,
      bodiesOf node member = .ok (some ((leavesOf node).map (Body.ofSchema stack)))) :
    mergedBodies stack schema branches bodiesOf =
      .ok (some ((branches.flatMap leavesOf ++ schema.ownLeaf).map (Body.ofSchema stack))) := by
  simp only [mergedBodies, gather_eq_flatMap each, siblings_eq_map, List.map_append,
    List.map_flatMap]

/-- A schema that merges others and does not admit `null` is taken apart into the bodies of
its branches, and its own. -/
theorem bodiesOf_of_isMerge
    {context : Context}
    (stack : List Pointer)
    {schema : Schema}
    (merges : schema.isMerge = true)
    (present : schema.isNullable context.options = false)
    {branches : List Node}
    (given : schema.allOf = some branches) :
    bodiesOf context ⟨stack, .inline schema⟩ =
      mergedBodies stack schema branches fun node _ => bodiesOf context ⟨stack, node⟩ := by
  simp only [bodiesOf_inline, Schema.isPlainObject_of_isMerge merges, merges, present, given,
    Bool.false_eq_true, if_false, Bool.not_false, Bool.and_self, if_true]

/-- A tree is taken apart into the bodies of its leaves. -/
theorem bodiesOf_of_mergeTree
    {context : Context}
    (stack : List Pointer)
    {node : Node}
    {leaves : List Schema}
    (tree : MergeTree context.options node leaves) :
    bodiesOf context ⟨stack, node⟩ = .ok (some (leaves.map (Body.ofSchema stack))) := by
  induction tree with
  | leaf plain => rw [bodiesOf_inline, if_pos plain, List.map_singleton]
  | node merges present given _ hypothesis =>
      rw [bodiesOf_of_isMerge stack merges present given]
      exact mergedBodies_eq_map hypothesis

/-! ## One body for all leaves -/

theorem put_map
    {κ α β : Type}
    [BEq κ]
    (change : α → β)
    (entries : List (κ × α))
    (key : κ)
    (value : α) :
    Entries.put (entries.map fun entry => (entry.1, change entry.2)) key (change value) =
      (Entries.put entries key value).map fun entry => (entry.1, change entry.2) := by
  induction entries with
  | nil => rfl
  | cons entry rest hypothesis =>
      simp only [List.map_cons, Entries.put]
      split
      · rfl
      · rw [hypothesis, List.map_cons]

theorem ofPairs_map
    {κ α β : Type}
    [BEq κ]
    (change : α → β)
    (pairs : List (κ × α)) :
    Entries.ofPairs (pairs.map fun pair => (pair.1, change pair.2)) =
      (Entries.ofPairs pairs).map fun pair => (pair.1, change pair.2) := by
  have onto (start : List (κ × α)) :
      (pairs.map fun pair => (pair.1, change pair.2)).foldl
          (fun entries pair => Entries.put entries pair.1 pair.2)
          (start.map fun entry => (entry.1, change entry.2)) =
        (pairs.foldl (fun entries pair => Entries.put entries pair.1 pair.2) start).map
          fun entry => (entry.1, change entry.2) := by
    induction pairs generalizing start with
    | nil => rfl
    | cons pair rest hypothesis =>
        rw [List.map_cons, List.foldl_cons, List.foldl_cons, put_map]
        exact hypothesis _
  exact onto []

/-- What the merged bodies of leaves say is what the merged leaf says; names may be
required several times. -/
theorem merge_map_ofSchema (stack : List Pointer) (leaves : List Schema) :
    Body.merge (leaves.map (Body.ofSchema stack)) =
      { Body.ofSchema stack (Schema.mergeOf leaves) with
        required := leaves.flatMap Schema.required } := by
  unfold Body.merge
  rw [Body.mk.injEq]
  refine ⟨?members, ?names, ?further⟩
  case members =>
    rw [List.flatMap_map]
    unfold Body.ofSchema Schema.mergeOf
    dsimp only [Option.getD_some]
    rw [← ofPairs_map, List.map_flatMap]
  case names =>
    rw [List.flatMap_map]
    rfl
  case further =>
    rw [List.filterMap_map]
    unfold Body.ofSchema Schema.mergeOf
    dsimp only
    rw [← List.getLast?_map, List.map_filterMap]
    rfl

/-- A body depends on its required names only by which there are. -/
theorem bodyType_required
    (context : Context)
    (body : Body)
    {required : List String}
    (same : ∀ name, name ∈ required ↔ name ∈ body.required) :
    bodyType context { body with required := required } = bodyType context body := by
  have member :
      propertyMember context { body with required := required } = propertyMember context body := by
    funext entry
    have known : required.contains entry.1 = body.required.contains entry.1 := by
      rw [Bool.eq_iff_iff, List.contains_iff_mem, List.contains_iff_mem]
      exact same entry.1
    unfold propertyMember
    dsimp only
    rw [known]
  unfold bodyType
  rw [member]
  rfl

theorem bodyType_merge_map_ofSchema
    (context : Context)
    (stack : List Pointer)
    (leaves : List Schema) :
    bodyType context (Body.merge (leaves.map (Body.ofSchema stack))) =
      bodyType context (Body.ofSchema stack (Schema.mergeOf leaves)) := by
  rw [merge_map_ofSchema]
  apply bodyType_required
  intro name
  exact List.mem_dedup.symm

/-! ## Types -/

theorem intersectionOf_singleton (type : TypeExpr) : TypeExpr.intersectionOf [type] = type := by
  cases type <;> simp [TypeExpr.intersectionOf, TypeExpr.parts]

theorem unionOf_singleton (type : TypeExpr) : TypeExpr.unionOf [type] = type := by
  cases type <;> simp [TypeExpr.unionOf, TypeExpr.alternatives]

/-- A single computation in a row is that computation. -/
theorem sequence_singleton
    {combine : List TypeExpr → TypeExpr}
    (single : ∀ type, combine [type] = type)
    (computation : Traced TypeExpr) :
    (Traced.sequence [computation] >>= fun types => pure (combine types)) = computation := by
  obtain ⟨events, result⟩ := computation
  change Traced.andThen (Traced.andThen ⟨events, result⟩ _) _ = _
  cases result with
  | error error => rfl
  | ok type => simp [Traced.andThen, Traced.sequence, Traced.done, pure, single]

/-- A schema that does not admit `null` has the type of its clauses or forms. -/
theorem typeOf_of_present
    {context : Context}
    (stack : List Pointer)
    {schema : Schema}
    (present : schema.isNullable context.options = false) :
    typeOf context ⟨stack, .inline schema⟩ = coreType context stack schema := by
  rw [typeOf_schema, present]
  generalize coreType context stack schema = computation
  obtain ⟨events, result⟩ := computation
  change Traced.andThen ⟨events, result⟩ _ = _
  cases result with
  | error error => rfl
  | ok type => simp [Traced.andThen, pure, Traced.done]

/-- The forms of a plain object are its members. -/
theorem coreType_eq_bodyType
    (context : Context)
    (stack : List Pointer)
    {schema : Schema}
    (plain : schema.isPlainObject = true) :
    coreType context stack schema = bodyType context (Body.ofSchema stack schema) := by
  obtain ⟨single, unfixed, unlisted, forms⟩ := forms_of_isPlainObject plain
  simp only [coreType, single, unfixed, unlisted, forms, Bool.false_eq_true, if_false]
  exact sequence_singleton unionOf_singleton _

theorem typeOf_mergeOf (context : Context) (stack : List Pointer) (leaves : List Schema) :
    typeOf context ⟨stack, .inline (.mergeOf leaves)⟩ =
      bodyType context (Body.ofSchema stack (.mergeOf leaves)) := by
  rw [typeOf_of_present stack (Schema.isNullable_mergeOf context.options leaves)]
  exact coreType_eq_bodyType context stack (Schema.isPlainObject_mergeOf leaves)

/-- A schema that merges others and does not admit `null` has the type of its only clause. -/
theorem typeOf_of_isMerge
    {context : Context}
    (stack : List Pointer)
    {schema : Schema}
    (merges : schema.isMerge = true)
    (present : schema.isNullable context.options = false)
    {branches : List Node}
    (given : schema.allOf = some branches) :
    typeOf context ⟨stack, .inline schema⟩ =
      clauseType context stack schema (.allOf branches) := by
  have composed : schema.isComposed = true := by simp [Schema.isComposed, given]
  rw [typeOf_of_present stack present]
  simp only [coreType, composed, if_true, Schema.clauses_of_isMerge merges given,
    List.map_singleton]
  exact sequence_singleton intersectionOf_singleton _

/-- A schema is the root of a tree of `allOf` in which something stands. -/
structure MergeRoot (options : Options) (root : Schema) (leaves : List Schema) : Prop where
  merges : root.isMerge = true
  tree : MergeTree options (.inline root) leaves
  filled : root.allOf ≠ some [] ∨ root.hasObjectKeywords = true

namespace MergeRoot

variable {context : Context} {root : Schema} {leaves : List Schema}

theorem present {options : Options} (isRoot : MergeRoot options root leaves) :
    root.isNullable options = false := by
  cases isRoot.tree with
  | leaf plain => exact absurd plain (by simp [Schema.isPlainObject_of_isMerge isRoot.merges])
  | node _ present => exact present

theorem exists_branches {options : Options} (isRoot : MergeRoot options root leaves) :
    ∃ branches, root.allOf = some branches := by
  have merges := isRoot.merges
  simp only [Schema.isMerge, Bool.and_eq_true] at merges
  exact Option.isSome_iff_exists.mp merges.1.1.1

/-- The type of a tree is that of the merged leaves. -/
theorem typeOf_eq (isRoot : MergeRoot context.options root leaves) (stack : List Pointer) :
    typeOf context ⟨stack, .inline root⟩ =
      typeOf context ⟨stack, .inline (.mergeOf leaves)⟩ := by
  obtain ⟨branches, given⟩ := isRoot.exists_branches
  have taken : (mergedBodies stack root branches fun node _ => bodiesOf context ⟨stack, node⟩) =
      .ok (some (leaves.map (Body.ofSchema stack))) := by
    rw [← bodiesOf_of_mergeTree stack isRoot.tree,
      bodiesOf_of_isMerge stack isRoot.merges isRoot.present given]
  have something : (branches.isEmpty && !root.hasObjectKeywords) = false := by
    rcases isRoot.filled with branching | keywords
    · rw [given, ne_eq, Option.some.injEq, ← List.isEmpty_iff] at branching
      simp [branching]
    · simp [keywords]
  have merged : clauseType context stack root (.allOf branches) =
      bodyType context (Body.merge (leaves.map (Body.ofSchema stack))) := by
    simp only [clauseType, taken, something, Bool.false_eq_true, if_false]
  rw [typeOf_of_isMerge stack isRoot.merges isRoot.present given, merged, typeOf_mergeOf,
    bodyType_merge_map_ofSchema]

end MergeRoot

/-- The leaves of a tree are plain objects. -/
theorem isPlainObject_of_mem_leaves
    {options : Options}
    {node : Node}
    {leaves : List Schema}
    (tree : MergeTree options node leaves) :
    ∀ leaf ∈ leaves, leaf.isPlainObject = true := by
  induction tree with
  | leaf plain => exact List.forall_mem_singleton.mpr plain
  | @node schema branches leavesOf _ _ _ _ hypothesis =>
      intro leaf listed
      rcases List.mem_append.mp listed with below | own
      · obtain ⟨branch, member, inBranch⟩ := List.mem_flatMap.mp below
        exact hypothesis branch member leaf inBranch
      · unfold Schema.ownLeaf at own
        split at own
        · rw [List.mem_singleton.mp own]
          simp [Schema.isPlainObject, Schema.isComposed, Schema.declaresNull, Schema.ownObject]
        · contradiction

/-- The tree of one level with the given leaves. -/
def flatTree (leaves : List Schema) : Schema :=
  { allOf := some (leaves.map .inline) }

/-- The leaf that an inline node is. -/
def inlineLeaf : Node → List Schema
  | .reference _ => []
  | .inline schema => [schema]

theorem mergeRoot_flatTree
    (options : Options)
    {leaves : List Schema}
    (plain : ∀ leaf ∈ leaves, leaf.isPlainObject = true)
    (nonempty : leaves ≠ []) :
    MergeRoot options (flatTree leaves) leaves := by
  have listed :
      (leaves.map .inline).flatMap inlineLeaf ++ (flatTree leaves).ownLeaf = leaves := by
    have own : (flatTree leaves).ownLeaf = [] := rfl
    rw [own, List.append_nil, List.flatMap_map]
    exact List.flatMap_singleton' leaves
  have present : (flatTree leaves).isNullable options = false := by
    simp [flatTree, Schema.isNullable, Schema.declaresNull]
  have tree : MergeTree options (.inline (flatTree leaves))
      ((leaves.map .inline).flatMap inlineLeaf ++ (flatTree leaves).ownLeaf) := by
    refine .node rfl present rfl ?_
    intro branch member
    obtain ⟨leaf, inLeaves, rfl⟩ := List.mem_map.mp member
    exact .leaf (plain leaf inLeaves)
  rw [listed] at tree
  refine ⟨rfl, tree, .inl ?_⟩
  simpa [flatTree] using nonempty

/-- A tree of `allOf` with plain objects at its leaves has the type of the one object that
is merged from the leaves. Hence all trees with the same leaves have one type, and so has
the tree of one level unless there are no leaves. -/
theorem typeOf_eq_mergeOf
    (context : Context)
    (stack : List Pointer)
    {root : Schema}
    {leaves : List Schema}
    (isRoot : MergeRoot context.options root leaves) :
    typeOf context ⟨stack, .inline root⟩ = typeOf context ⟨stack, .inline (.mergeOf leaves)⟩ ∧
      (∀ other, MergeRoot context.options other leaves →
        typeOf context ⟨stack, .inline other⟩ = typeOf context ⟨stack, .inline root⟩) ∧
      (leaves ≠ [] →
        typeOf context ⟨stack, .inline (flatTree leaves)⟩ =
          typeOf context ⟨stack, .inline root⟩) := by
  have same (other : Schema) (otherRoot : MergeRoot context.options other leaves) :
      typeOf context ⟨stack, .inline other⟩ = typeOf context ⟨stack, .inline root⟩ :=
    (otherRoot.typeOf_eq stack).trans (isRoot.typeOf_eq stack).symm
  refine ⟨isRoot.typeOf_eq stack, same, ?_⟩
  intro nonempty
  have plain := isPlainObject_of_mem_leaves isRoot.tree
  exact same _ (mergeRoot_flatTree context.options plain nonempty)

/-- Two levels of `allOf` in which a property and the word on further keys are given
anew, with names required beside the branches. -/
theorem typeOf_eq_mergeOf_of_two_levels :
    let text : Node := .inline { types := ["string"] }
    let number : Node := .inline { types := ["number"] }
    let first : Schema :=
      { types := ["object"], properties := some [("a", text), ("b", text)]
        additional := some (.allowed true) }
    let second : Schema :=
      { properties := some [("c", text), ("a", number)], required := ["a"]
        additional := some (.allowed false) }
    let inner : Schema := { allOf := some [.inline first, .inline second] }
    let root : Schema := { allOf := some [.inline inner], required := ["b", "a"] }
    let context : Context := ⟨.ofDescription {}, {}, none⟩
    let merged : Schema :=
      { types := ["object"], properties := some [("a", number), ("b", text), ("c", text)]
        required := ["b", "a"], additional := some (.allowed false) }
    MergeRoot context.options root [first, second, root.ownObject] ∧
      Schema.mergeOf [first, second, root.ownObject] = merged ∧
      typeOf context ⟨[], .inline root⟩ = typeOf context ⟨[], .inline merged⟩ := by
  intro text number first second inner root context merged
  have plain : ∀ leaf ∈ [first, second], leaf.isPlainObject = true := by
    simp only [List.forall_mem_cons, List.not_mem_nil, false_imp_iff, implies_true, and_true]
    decide
  have innerTree : MergeTree context.options (.inline inner) [first, second] :=
    (mergeRoot_flatTree context.options plain (List.cons_ne_nil _ _)).tree
  have tree : MergeTree context.options (.inline root) [first, second, root.ownObject] :=
    @MergeTree.node _ root _ (fun _ => [first, second]) rfl rfl rfl
      (List.forall_mem_singleton.mpr innerTree)
  have isRoot : MergeRoot context.options root [first, second, root.ownObject] :=
    ⟨rfl, tree, .inr rfl⟩
  have same : Schema.mergeOf [first, second, root.ownObject] = merged := by
    cbv
  refine ⟨isRoot, same, ?_⟩
  rw [← same]
  exact (typeOf_eq_mergeOf context [] isRoot).1

end Typing
end ApiTypings
