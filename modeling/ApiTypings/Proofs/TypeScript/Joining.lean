import ApiTypings.Proofs.TypeScript.Splitting

/-!
# Types joined as texts

Arrays, unions, intersections and types that admit `null` are built as trees. Their texts are
those that the scanner makes of the texts of their parts: it finds the operators at top level
for which the tree puts a part in parentheses, and the member `null` that the tree looks for.
-/

namespace ApiTypings
namespace TypeScript

/-! ## Joining lists -/

section Lists

variable {α : Type} (separator : List α)

theorem intercalate_append
    {first second : List (List α)}
    (filled : first ≠ [])
    (more : second ≠ []) :
    separator.intercalate (first ++ second) =
      separator.intercalate first ++ (separator ++ separator.intercalate second) := by
  induction first with
  | nil => contradiction
  | cons text rest hypothesis =>
      cases rest with
      | nil =>
          obtain ⟨next, others, rfl⟩ := List.exists_cons_of_ne_nil more
          simp [List.intercalate_cons_cons]
      | cons next others =>
          have later := hypothesis (List.cons_ne_nil _ _)
          simp only [List.cons_append, List.intercalate_cons_cons, List.append_assoc] at later ⊢
          rw [later]

/-- To join lists of texts that are not empty is to join what each of them is joined to. -/
theorem intercalate_flatMap
    {β : Type}
    {pieces : β → List (List α)}
    {items : List β}
    (filled : ∀ item ∈ items, pieces item ≠ []) :
    separator.intercalate (items.flatMap pieces) =
      separator.intercalate (items.map fun item => separator.intercalate (pieces item)) := by
  induction items with
  | nil => rfl
  | cons item rest hypothesis =>
      obtain ⟨here, there⟩ := List.forall_mem_cons.mp filled
      cases rest with
      | nil => simp
      | cons next others =>
          have more : (next :: others).flatMap pieces ≠ [] := by
            rw [List.flatMap_cons]
            exact List.append_ne_nil_of_left_ne_nil (there next List.mem_cons_self) _
          rw [List.flatMap_cons, intercalate_append separator here more, hypothesis there]
          simp only [List.map_cons, List.intercalate_cons_cons, List.append_assoc]

end Lists

namespace TypeExpr

/-! ## Unions and intersections -/

variable (level : Nat)

theorem alternatives_ne_nil (type : TypeExpr) : type.alternatives ≠ [] := by
  cases type <;> simp [alternatives]

theorem parts_ne_nil (type : TypeExpr) : type.parts ≠ [] := by
  cases type <;> simp [parts]

/-- A type is written as its alternatives, joined by bars. -/
theorem intercalate_alternatives (type : TypeExpr) :
    [' ', '|', ' '].intercalate (type.alternatives.map fun member => (member.render level).toList) =
      (type.render level).toList := by
  cases type with
  | union first second rest =>
      rw [toList_render_union]
      rfl
  | _ => exact List.intercalate_singleton

/-- A type is written as its parts, joined by ampersands, unless it stands in parentheses. -/
theorem intercalate_parts (type : TypeExpr) :
    [' ', '&', ' '].intercalate
        (type.parts.map fun part => (grouped part.isUnion (part.render level)).toList) =
      (grouped type.isUnion (type.render level)).toList := by
  cases type with
  | intersection first second rest =>
      rw [parts, ← toList_render_intersection]
      rfl
  | _ => exact List.intercalate_singleton

/-- The union of types is written as their texts, joined by bars. -/
theorem toList_render_unionOf {types : List TypeExpr} (filled : types ≠ []) :
    ((unionOf types).render level).toList =
      [' ', '|', ' '].intercalate (types.map fun type => (type.render level).toList) := by
  have joined : [' ', '|', ' '].intercalate
      ((types.flatMap alternatives).map fun member => (member.render level).toList) =
        [' ', '|', ' '].intercalate (types.map fun type => (type.render level).toList) := by
    rw [List.map_flatMap, intercalate_flatMap _ fun type _ => by simp [alternatives_ne_nil]]
    simp only [intercalate_alternatives]
  rw [← joined]
  unfold unionOf
  match members : types.flatMap alternatives with
  | [] =>
      obtain ⟨type, rest, rfl⟩ := List.exists_cons_of_ne_nil filled
      simp [alternatives_ne_nil] at members
  | [only] => exact List.intercalate_singleton.symm
  | first :: second :: rest => exact toList_render_union level first second rest

/-- The intersection of several types is written as their texts, joined by ampersands, where
each stands in parentheses in which the scanner finds a bar at top level. -/
theorem toList_render_intersectionOf
    {Name : String → Prop}
    {Key : MemberKey → Prop}
    (regular : Regular Name Key)
    {first second : TypeExpr}
    {rest : List TypeExpr}
    (sound : ∀ type ∈ first :: second :: rest, type.Sound Name Key) :
    ((intersectionOf (first :: second :: rest)).render level).toList =
      [' ', '&', ' '].intercalate ((first :: second :: rest).map fun type =>
        parenthesize (type.render level).toList ['|']) := by
  have scanned : (first :: second :: rest).map (fun type =>
      parenthesize (type.render level).toList ['|']) =
        (first :: second :: rest).map fun type =>
          (grouped type.isUnion (type.render level)).toList := by
    refine List.map_congr_left fun type listed => ?_
    exact ((sound type listed).parenthesize_render regular level).1
  have joined : [' ', '&', ' '].intercalate (((first :: second :: rest).flatMap parts).map
      fun part => (grouped part.isUnion (part.render level)).toList) =
        [' ', '&', ' '].intercalate ((first :: second :: rest).map fun type =>
          (grouped type.isUnion (type.render level)).toList) := by
    rw [List.map_flatMap, intercalate_flatMap _ fun type _ => by simp [parts_ne_nil]]
    simp only [intercalate_parts]
  have several : 2 ≤ ((first :: second :: rest).flatMap parts).length := by
    have one (type : TypeExpr) : 1 ≤ type.parts.length :=
      List.length_pos_iff.mpr (parts_ne_nil type)
    have least := one first
    have next := one second
    simp only [List.flatMap_cons, List.length_append]
    omega
  rw [scanned, ← joined]
  unfold intersectionOf
  match members : (first :: second :: rest).flatMap parts with
  | [] => simp [members] at several
  | [only] => simp [members] at several
  | part :: next :: others => exact toList_render_intersection level part next others

/-! ## Arrays and null -/

section Sound

variable
    {Name : String → Prop}
    {Key : MemberKey → Prop}
    (regular : Regular Name Key)
    {type : TypeExpr}
    (sound : type.Sound Name Key)

include regular sound

/-- The item of an array stands in parentheses if the scanner finds an operator in it. -/
theorem Sound.toList_render_array :
    (render level (.array type)).toList =
      parenthesize (type.render level).toList ['|', '&'] ++ ['[', ']'] := by
  rw [(sound.parenthesize_render regular level).2]
  exact TypeExpr.toList_render_array level type

/-- A type that admits `null` is written with it behind, unless the scanner finds it among the
members. -/
theorem Sound.toList_render_orNull :
    (type.orNull.render level).toList =
      if "null".toList ∈ splitTopLevel (type.render level).toList '|' then
        (type.render level).toList
      else (type.render level).toList ++ " | null".toList := by
  have known := sound.mem_splitTopLevel_render_iff regular level
  unfold TypeExpr.orNull
  cases new : type.alternatives.any isNull with
  | true => rw [if_pos (known.mpr new), if_pos rfl]
  | false =>
      have absent : "null".toList ∉ splitTopLevel (type.render level).toList '|' := by
        rw [known, new]
        exact Bool.false_ne_true
      have word : (render level null).toList = "null".toList := by
        rw [null, render]
        rfl
      rw [if_neg absent, if_neg Bool.false_ne_true,
        toList_render_unionOf level (List.cons_ne_nil _ _), List.map_cons, List.map_singleton,
        List.intercalate_cons_cons, List.intercalate_singleton, List.append_assoc, word]
      rfl

end Sound

end TypeExpr

end TypeScript
end ApiTypings
