import ApiTypings.Proofs.TypeScript.Rendering

/-!
# Building types

Unions, intersections and objects of types are read as unions, intersections and
objects of their trees. Unions in unions and intersections in intersections are
flattened, so that sound types are built from sound ones. Scalars are the types that
are built from values.
-/

namespace ApiTypings

/-- Whether a value is a scalar of JSON. Dates are none. -/
def Value.isJsonScalar : Value → Bool
  | .null | .bool _ | .int _ | .float _ | .text _ => true
  | .moment _ | .list _ | .mapping _ | .keyed _ => false

namespace TypeScript

namespace Tree

/-- The tree of which nothing is known. -/
def unknown : Tree := .name "unknown"

/-- The tree of `null`. -/
def null : Tree := .name "null"

/-- The members of a union; any other tree is its only member. -/
def alternatives : Tree → List Tree
  | .union members => members
  | other => [other]

/-- The parts of an intersection; any other tree is its only part. -/
def parts : Tree → List Tree
  | .intersection parts => parts
  | other => [other]

/-- One tree for several: nothing is known of none, and one stands for itself. -/
def join (operator : List Tree → Tree) : List Tree → Tree
  | [] => unknown
  | [only] => only
  | several => operator several

/-- The union of trees, unions among them flattened. -/
def unionOf (trees : List Tree) : Tree :=
  join .union (trees.flatMap alternatives)

/-- The intersection of trees, intersections among them flattened. -/
def intersectionOf (trees : List Tree) : Tree :=
  join .intersection (trees.flatMap parts)

/-- Whether a tree is the word `null`, blanks around it aside. -/
def isNull : Tree → Bool
  | .name word => Text.trim word.toList == "null".toList
  | _ => false

/-- A tree that admits `null`: it is added as the last member unless it is one. -/
def orNull (tree : Tree) : Tree :=
  if tree.alternatives.any isNull then tree else unionOf [tree, null]

/-- The object with the given members; without any, every key holds a value of the
given keyword. -/
def objectOr (empty : Keyword) (fields : List (Field Tree)) : Tree :=
  if fields.isEmpty then .generic "Record" [.name Keyword.string.render, .name empty.render]
  else .object fields

theorem alternatives_of_isUnion {tree : Tree} (simple : tree.isUnion = false) :
    tree.alternatives = [tree] := by
  cases tree with
  | union members => contradiction
  | _ => rfl

theorem parts_of_isCompound {tree : Tree} (simple : tree.isCompound = false) :
    tree.parts = [tree] := by
  cases tree with
  | intersection parts => contradiction
  | _ => rfl

end Tree

variable {Name : String → Prop} {Key : MemberKey → Prop}

namespace TypeExpr

/-! ## Trees of built types -/

theorem alternatives_tree (type : TypeExpr) :
    type.tree.alternatives = type.alternatives.map tree := by
  cases type with
  | union first second rest => rw [tree_union]; rfl
  | literal value => exact Tree.alternatives_of_isUnion (isCompound_literal value).1
  | _ => rfl

theorem parts_tree (type : TypeExpr) : type.tree.parts = type.parts.map tree := by
  cases type with
  | intersection first second rest => rw [tree_intersection]; rfl
  | literal value => exact Tree.parts_of_isCompound (isCompound_literal value).2
  | _ => rfl

theorem tree_unionOf (types : List TypeExpr) :
    (unionOf types).tree = Tree.unionOf (types.map tree) := by
  have members : (types.map tree).flatMap Tree.alternatives =
      (types.flatMap alternatives).map tree := by
    rw [List.flatMap_map, List.map_flatMap]
    simp only [alternatives_tree]
  unfold unionOf Tree.unionOf
  rw [members]
  cases types.flatMap alternatives with
  | nil => rfl
  | cons first rest =>
      cases rest with
      | nil => rfl
      | cons second rest => exact tree_union first second rest

theorem tree_intersectionOf (types : List TypeExpr) :
    (intersectionOf types).tree = Tree.intersectionOf (types.map tree) := by
  have members : (types.map tree).flatMap Tree.parts = (types.flatMap parts).map tree := by
    rw [List.flatMap_map, List.map_flatMap]
    simp only [parts_tree]
  unfold intersectionOf Tree.intersectionOf
  rw [members]
  cases types.flatMap parts with
  | nil => rfl
  | cons first rest =>
      cases rest with
      | nil => rfl
      | cons second rest => exact tree_intersection first second rest

theorem isNull_tree (type : TypeExpr) : type.tree.isNull = type.isNull := by
  cases type with
  | keyword word => cases word <;> decide
  | literal value =>
      cases value with
      | bool flag => cases flag <;> decide
      | float number =>
          simp only [tree, Literal.tree, Tree.ofFloat]
          split <;> rfl
      | _ => rfl
  | negation => decide
  | _ => rfl

theorem tree_orNull (type : TypeExpr) : type.orNull.tree = type.tree.orNull := by
  have member : type.tree.alternatives.any Tree.isNull = type.alternatives.any isNull := by
    rw [alternatives_tree, List.any_map]
    congr 1
    funext other
    exact isNull_tree other
  unfold orNull Tree.orNull
  rw [member]
  split
  · rfl
  · exact tree_unionOf [type, null]

theorem tree_objectOr (empty : Keyword) (members : List (Member TypeExpr)) :
    (objectOr empty members).tree = Tree.objectOr empty (members.map Member.field) := by
  unfold objectOr Tree.objectOr
  rw [List.isEmpty_map]
  split
  · rfl
  · exact tree_object members

/-! ## Sound types are built from sound types -/

end TypeExpr

/-- A member that can stand in a sound object type. -/
structure Member.Sound
    (Name : String → Prop)
    (Key : MemberKey → Prop)
    (member : Member TypeExpr) : Prop where
  key : Key member.key
  comment : Silent member.comment
  type : member.type.Sound Name Key

namespace TypeExpr

/-- A type whose keys are of one kind is sound for every kind that includes it. -/
theorem Sound.mono
    {Wider : MemberKey → Prop}
    (wider : ∀ key, Key key → Wider key)
    {type : TypeExpr}
    (sound : type.Sound Name Key) :
    type.Sound Name Wider := by
  induction sound with
  | keyword word => exact .keyword word
  | literal value => exact .literal value
  | reference named => exact .reference named
  | template => exact .template
  | negation => exact .negation
  | record value => exact .record value
  | array _ hypothesis => exact .array hypothesis
  | tuple _ length hypothesis => exact .tuple hypothesis length
  | object keys comments _ hypothesis =>
      exact .object (fun member listed => wider _ (keys member listed)) comments hypothesis
  | union flat _ hypothesis => exact .union flat hypothesis
  | intersection flat _ hypothesis => exact .intersection flat hypothesis

theorem Sound.alternatives {type : TypeExpr} (sound : type.Sound Name Key) :
    ∀ member ∈ type.alternatives, member.alternatives = [member] ∧ member.Sound Name Key := by
  intro member listed
  have whole := sound
  cases sound with
  | union flat each => exact ⟨flat member listed, each member listed⟩
  | _ =>
      rw [List.mem_singleton.mp listed]
      exact ⟨rfl, whole⟩

theorem Sound.parts {type : TypeExpr} (sound : type.Sound Name Key) :
    ∀ part ∈ type.parts, part.parts = [part] ∧ part.Sound Name Key := by
  intro part listed
  have whole := sound
  cases sound with
  | intersection flat each => exact ⟨flat part listed, each part listed⟩
  | _ =>
      rw [List.mem_singleton.mp listed]
      exact ⟨rfl, whole⟩

theorem sound_unionOf
    {types : List TypeExpr}
    (each : ∀ type ∈ types, type.Sound Name Key) :
    (unionOf types).Sound Name Key := by
  have members : ∀ member ∈ types.flatMap TypeExpr.alternatives,
      member.alternatives = [member] ∧ member.Sound Name Key := by
    intro member listed
    obtain ⟨type, inTypes, inAlternatives⟩ := List.mem_flatMap.mp listed
    exact (each type inTypes).alternatives member inAlternatives
  unfold unionOf
  split
  · exact .keyword .unknown
  · rename_i only same
    rw [same] at members
    exact (members only List.mem_cons_self).2
  · rename_i same
    rw [same] at members
    exact .union (fun type listed => (members type listed).1) fun type listed =>
      (members type listed).2

theorem sound_intersectionOf
    {types : List TypeExpr}
    (each : ∀ type ∈ types, type.Sound Name Key) :
    (intersectionOf types).Sound Name Key := by
  have members : ∀ part ∈ types.flatMap TypeExpr.parts,
      part.parts = [part] ∧ part.Sound Name Key := by
    intro part listed
    obtain ⟨type, inTypes, inParts⟩ := List.mem_flatMap.mp listed
    exact (each type inTypes).parts part inParts
  unfold intersectionOf
  split
  · exact .keyword .unknown
  · rename_i only same
    rw [same] at members
    exact (members only List.mem_cons_self).2
  · rename_i same
    rw [same] at members
    exact .intersection (fun type listed => (members type listed).1) fun type listed =>
      (members type listed).2

theorem Sound.orNull {type : TypeExpr} (sound : type.Sound Name Key) :
    type.orNull.Sound Name Key := by
  unfold TypeExpr.orNull
  split
  · exact sound
  · refine sound_unionOf ?_
    intro member listed
    simp only [List.mem_cons, List.not_mem_nil, or_false] at listed
    rcases listed with rfl | rfl
    · exact sound
    · exact .keyword .null

theorem sound_object
    {members : List (Member TypeExpr)}
    (each : ∀ member ∈ members, member.Sound Name Key) :
    (TypeExpr.object members).Sound Name Key :=
  .object (fun member listed => (each member listed).key)
    (fun member listed => (each member listed).comment)
    fun member listed => (each member listed).type

theorem sound_objectOr
    (empty : Keyword)
    {members : List (Member TypeExpr)}
    (each : ∀ member ∈ members, member.Sound Name Key) :
    (objectOr empty members).Sound Name Key := by
  unfold objectOr
  split
  · exact .record empty
  · exact sound_object each

/-! ## Scalars -/

/-- What becomes of a value: an integer of too many digits cannot be written, a value that is
no scalar has no type of its own, and the type of any other is `null` or a literal. -/
inductive ScalarOutcome : Value → Except Json.WriteError (Option TypeExpr) → Prop
  | long
      {number : Int}
      (long : Decimal.isWritable number = false) :
      ScalarOutcome (.int number) (.error .longInteger)
  | other {value : Value} (other : value.isJsonScalar = false) : ScalarOutcome value (.ok none)
  | scalar
      {value : Value}
      {type : TypeExpr}
      (scalar : value.isJsonScalar = true)
      (short : ∀ number, value = .int number → Decimal.isWritable number = true)
      (atom : type = null ∨ ∃ content, type = literal content) :
      ScalarOutcome value (.ok (some type))

theorem scalarOutcome_ofScalar (value : Value) : ScalarOutcome value (ofScalar value) := by
  cases value with
  | null => exact .scalar rfl (by simp) (.inl rfl)
  | bool flag => exact .scalar rfl (by simp) (.inr ⟨_, rfl⟩)
  | int number =>
      have outcome : ofScalar (.int number) = if Decimal.isWritable number then
          .ok (some (literal (.int number))) else .error .longInteger := rfl
      cases short : Decimal.isWritable number with
      | false =>
          rw [outcome, short, if_neg Bool.false_ne_true]
          exact .long short
      | true =>
          rw [outcome, short, if_pos rfl]
          refine .scalar rfl ?_ (.inr ⟨_, rfl⟩)
          rintro _ ⟨⟩
          exact short
  | float number => exact .scalar rfl (by simp) (.inr ⟨_, rfl⟩)
  | text content => exact .scalar rfl (by simp) (.inr ⟨_, rfl⟩)
  | _ => exact .other rfl

theorem ofScalar_eq_error_iff (value : Value) (error : Json.WriteError) :
    ofScalar value = .error error ↔ error = .longInteger ∧
      ∃ number, value = .int number ∧ Decimal.isWritable number = false := by
  have outcome := scalarOutcome_ofScalar value
  constructor
  · intro failed
    rw [failed] at outcome
    cases outcome with
    | long long => exact ⟨rfl, _, rfl, long⟩
  · rintro ⟨rfl, number, rfl, long⟩
    generalize ofScalar (.int number) = result at outcome ⊢
    cases outcome with
    | long => rfl
    | other other => cases other
    | scalar _ short _ =>
        rw [short number rfl] at long
        cases long

theorem isSome_of_ofScalar
    {value : Value}
    {type? : Option TypeExpr}
    (written : ofScalar value = .ok type?) :
    type?.isSome = value.isJsonScalar := by
  have outcome := scalarOutcome_ofScalar value
  rw [written] at outcome
  cases outcome with
  | other other => exact other.symm
  | scalar scalar _ _ => exact scalar.symm

theorem null_or_literal_of_ofScalar
    {value : Value}
    {type : TypeExpr}
    (written : ofScalar value = .ok (some type)) :
    type = null ∨ ∃ content, type = literal content := by
  have outcome := scalarOutcome_ofScalar value
  rw [written] at outcome
  cases outcome with
  | scalar _ _ atom => exact atom

/-- Types that are no unions are the members of their union. -/
theorem alternatives_unionOf
    {types : List TypeExpr}
    (some : types ≠ [])
    (simple : ∀ type ∈ types, type.alternatives = [type]) :
    (unionOf types).alternatives = types := by
  have flat : types.flatMap alternatives = types := by
    rw [List.flatMap_congr simple, List.flatMap_singleton']
  unfold unionOf
  rw [flat]
  split
  · contradiction
  · exact simple _ List.mem_cons_self
  · rfl

end TypeExpr

end TypeScript
end ApiTypings
