import ApiTypings.Proofs.TypeScript.Lines
import ApiTypings.Proofs.Typing.Formation

/-!
# Indentation

The text of a type at a level is its text at level zero, with the blanks of the level behind
every line feed. For all lines of a type start with the blanks of its level, and there are no
line feeds in names, keys, values and the lines of comments.
-/

namespace ApiTypings
namespace TypeScript

open Text

/-! ## Indented texts -/

/-- The blanks of a level. -/
abbrev blanks (level : Nat) : List Char :=
  List.replicate (2 * level) ' '

/-- A text with the blanks of a level behind every line feed. -/
def indent (level : Nat) (text : List Char) : List Char :=
  text.flatMap fun c => if c = '\n' then '\n' :: blanks level else [c]

theorem blanks_add (level more : Nat) : blanks (level + more) = blanks more ++ blanks level := by
  rw [blanks, blanks, blanks, List.replicate_append_replicate]
  congr 1
  omega

theorem indent_append (level : Nat) (first second : List Char) :
    indent level (first ++ second) = indent level first ++ indent level second :=
  List.flatMap_append

theorem indent_lineFeed (level : Nat) (text : List Char) :
    indent level ('\n' :: text) = '\n' :: (blanks level ++ indent level text) := by
  simp [indent]

theorem indent_of_onOneLine (level : Nat) {text : List Char} (line : OnOneLine text) :
    indent level text = text := by
  unfold indent
  induction text with
  | nil => rfl
  | cons c rest hypothesis =>
      rw [OnOneLine, List.mem_cons, not_or] at line
      rw [List.flatMap_cons, if_neg (Ne.symm line.1), hypothesis line.2]
      rfl

theorem indent_intercalate
    (level : Nat)
    {separator : List Char}
    (line : OnOneLine separator)
    (texts : List (List Char)) :
    indent level (separator.intercalate texts) =
      separator.intercalate (texts.map (indent level)) := by
  induction texts with
  | nil => rfl
  | cons first rest hypothesis =>
      cases rest with
      | nil => simp
      | cons second rest =>
          rw [List.intercalate_cons_cons, indent_append, indent_append,
            indent_of_onOneLine level line, hypothesis]
          simp only [List.map_cons, List.intercalate_cons_cons]

theorem indent_flatMap_lineFeed (level : Nat) (lines : List (List Char)) :
    indent level (lines.flatMap ('\n' :: ·)) =
      lines.flatMap fun line => '\n' :: (blanks level ++ indent level line) := by
  unfold indent
  rw [List.flatMap_assoc]
  refine List.flatMap_congr ?_
  intro line _
  exact indent_lineFeed level line

theorem onOneLine_blanks (level : Nat) : OnOneLine (blanks level) := by
  intro member
  exact absurd (List.eq_of_mem_replicate member) (by decide)

/-! ## Objects by lines -/

/-- A line feed stands in front of every line. -/
theorem cons_intercalate_lineFeed {lines : List (List Char)} (filled : lines ≠ []) :
    '\n' :: ['\n'].intercalate lines = lines.flatMap ('\n' :: ·) := by
  induction lines with
  | nil => contradiction
  | cons line rest hypothesis =>
      cases rest with
      | nil => simp
      | cons second rest =>
          have later := hypothesis (List.cons_ne_nil second rest)
          rw [List.intercalate_cons_cons, List.flatMap_cons, ← later]
          simp

namespace TypeExpr

theorem renderMembers_ne_nil
    {members : List (Member TypeExpr)}
    (filled : members ≠ [])
    (level : Nat) :
    renderMembers level members ≠ [] := by
  obtain ⟨member, rest, rfl⟩ := List.exists_cons_of_ne_nil filled
  rw [renderMembers_eq_flatMap, List.flatMap_cons]
  simp [Member.lines]

/-- An object type is a brace, lines with line feeds in front of them, and a brace on a line
of its own. -/
theorem toList_render_lines
    {members : List (Member TypeExpr)}
    (filled : members ≠ [])
    (level : Nat) :
    (render level (.object members)).toList =
      ['{'] ++ (((renderMembers (level + 1) members).map String.toList).flatMap ('\n' :: ·) ++
        '\n' :: (blanks level ++ ['}'])) := by
  have lines : (renderMembers (level + 1) members).map String.toList ≠ [] := by
    simpa using renderMembers_ne_nil filled (level + 1)
  rw [toList_render_members, ← cons_intercalate_lineFeed lines]
  simp

/-! ## Types -/

variable {level : Nat}

theorem indent_grouped
    (flag : Bool)
    {text indented : String}
    (shifted : indented.toList = indent level text.toList) :
    (grouped flag indented).toList = indent level (grouped flag text).toList := by
  cases flag with
  | false => exact shifted
  | true =>
      simp only [grouped, if_true, String.toList_append, indent_append, shifted]
      rfl

/-- A line that starts with blanks starts with more of them at a deeper level. -/
theorem indent_line
    (base : Nat)
    {text indented : List Char}
    (shifted : indented = indent level text) :
    blanks (base + level) ++ indented = blanks level ++ indent level (blanks base ++ text) := by
  rw [shifted, blanks_add, List.append_assoc, indent_append,
    indent_of_onOneLine level (onOneLine_blanks base)]

theorem lines_member
    {member : Member TypeExpr}
    (key : OnOneLine member.key.render.toList)
    (comment : ∀ line ∈ member.comment, OnOneLine line.toList)
    (base : Nat)
    {text indented : String}
    (shifted : indented.toList = indent level text.toList) :
    (member.lines (base + level) indented).map String.toList =
      (member.lines base text).map fun line => blanks level ++ indent level line.toList := by
  have readonly : OnOneLine (if member.readonly then "readonly " else "").toList := by
    cases member.readonly <;> decide
  have optional : OnOneLine (if member.optional then "?" else "").toList := by
    cases member.optional <;> decide
  have colon : OnOneLine ": ".toList := by decide
  have semicolon : OnOneLine ";".toList := by decide
  simp only [Member.lines, List.map_append, List.map_map, List.map_singleton]
  refine congrArg₂ (· ++ ·) (List.map_congr_left ?_) (congrArg List.singleton ?_)
  · intro line listed
    simp only [Function.comp_apply, String.toList_append, toList_indentation]
    exact indent_line base (indent_of_onOneLine level (comment line listed)).symm
  · simp only [String.toList_append, toList_indentation, List.append_assoc]
    refine indent_line base ?_
    simp only [indent_append, indent_of_onOneLine level readonly, indent_of_onOneLine level key,
      indent_of_onOneLine level optional, indent_of_onOneLine level colon,
      indent_of_onOneLine level semicolon, shifted]

theorem lines_members
    {members : List (Member TypeExpr)}
    (keys : ∀ member ∈ members, OnOneLine member.key.render.toList)
    (comments : ∀ member ∈ members, ∀ line ∈ member.comment, OnOneLine line.toList)
    (base : Nat)
    (types : ∀ member ∈ members,
      (member.type.render (base + level)).toList = indent level (member.type.render base).toList) :
    (renderMembers (base + level) members).map String.toList =
      (renderMembers base members).map fun line => blanks level ++ indent level line.toList := by
  rw [renderMembers_eq_flatMap, renderMembers_eq_flatMap, List.map_flatMap, List.map_flatMap]
  refine List.flatMap_congr ?_
  intro member listed
  exact lines_member (keys member listed) (comments member listed) base (types member listed)

theorem indent_object
    {members : List (Member TypeExpr)}
    (filled : members ≠ [])
    (base : Nat)
    (lines : (renderMembers (base + level + 1) members).map String.toList =
      (renderMembers (base + 1) members).map fun line =>
        blanks level ++ indent level line.toList) :
    (render (base + level) (.object members)).toList =
      indent level (render base (.object members)).toList := by
  have brace : OnOneLine ['{'] := by decide
  have closing : OnOneLine (blanks base ++ ['}']) :=
    (onOneLine_blanks base).append (by decide)
  rw [toList_render_lines filled, toList_render_lines filled, lines, indent_append, indent_append,
    indent_flatMap_lineFeed, indent_lineFeed, indent_of_onOneLine level brace,
    indent_of_onOneLine level closing, blanks_add, List.append_assoc, List.flatMap_map,
    List.flatMap_map]

end TypeExpr

end TypeScript

namespace Typing

open Component Document Text TypeScript

variable {context : Context}

theorem onOneLine_describe
    {options : Options}
    {comment : List String}
    (describes : Describes options comment) :
    ∀ line ∈ comment, OnOneLine line.toList := by
  rcases describes with rfl | ⟨node, described⟩
  · simp
  · cases node with
    | reference reference =>
        dsimp only [describe] at described
        split at described
        · exact onOneLine_of_lines (by simp [Remark.about]) described
        · cases described
          simp
    | inline schema =>
        refine onOneLine_of_lines ?_ described
        intro tag listed text written
        dsimp only at listed
        split at listed
        · cases List.mem_singleton.mp listed
          cases written
          decide
        · contradiction

theorem onOneLine_ofSchema {key : MemberKey} (kept : key.OfSchema) :
    OnOneLine key.render.toList := by
  cases key with
  | word name => contradiction
  | quoted name => exact onOneLine_quoted name
  | anyKey => decide

/-- A type that is formed has the same lines at every level, with the blanks of the level in
front of all but the first. -/
theorem Formed.render_add
    (unbroken : ∀ name, context.catalog.Declares name → OnOneLine name.toList)
    {type : TypeExpr}
    (formed : Formed context type)
    (base level : Nat) :
    (type.render (base + level)).toList = indent level (type.render base).toList := by
  induction formed generalizing base with
  | keyword word =>
      have line : OnOneLine word.render.toList := by cases word <;> decide
      exact (indent_of_onOneLine level line).symm
  | literal value => exact (indent_of_onOneLine level (onOneLine_literal value)).symm
  | @reference name declared => exact (indent_of_onOneLine level (unbroken name declared)).symm
  | negation =>
      have line : OnOneLine negationText.toList := by decide
      exact (indent_of_onOneLine level line).symm
  | record word =>
      have line : OnOneLine ("Record<string, ".toList ++ (word.render.toList ++ ['>'])) := by
        cases word <;> decide
      rw [TypeExpr.toList_render_record, TypeExpr.toList_render_record,
        indent_of_onOneLine level line]
  | array _ hypothesis =>
      rw [TypeExpr.toList_render_array, TypeExpr.toList_render_array, indent_append,
        TypeExpr.indent_grouped _ (hypothesis base)]
      rfl
  | tuple _ length hypothesis =>
      have comma : OnOneLine [',', ' '] := by decide
      rw [TypeExpr.toList_render_tuple, TypeExpr.toList_render_tuple, indent_append, indent_append,
        indent_intercalate level comma, List.map_replicate, List.map_replicate,
        List.map_replicate, hypothesis base]
      rfl
  | object filled keys comments _ hypothesis =>
      refine TypeExpr.indent_object filled base ?_
      rw [Nat.add_right_comm]
      refine TypeExpr.lines_members (fun member listed => onOneLine_ofSchema (keys member listed))
        (fun member listed => onOneLine_describe (comments member listed)) (base + 1) ?_
      intro member listed
      exact hypothesis member listed (base + 1)
  | union _ hypothesis =>
      have bar : OnOneLine [' ', '|', ' '] := by decide
      rw [TypeExpr.toList_render_union, TypeExpr.toList_render_union, indent_intercalate level bar,
        List.map_map]
      refine congrArg _ (List.map_congr_left ?_)
      intro member listed
      exact hypothesis member listed base
  | intersection _ hypothesis =>
      have ampersand : OnOneLine [' ', '&', ' '] := by decide
      rw [TypeExpr.toList_render_intersection, TypeExpr.toList_render_intersection,
        indent_intercalate level ampersand, List.map_map]
      refine congrArg _ (List.map_congr_left ?_)
      intro part listed
      exact TypeExpr.indent_grouped _ (hypothesis part listed base)

/-- Where no name of a declaration has a line feed in it, the text of a type at a level is
that at level zero with the blanks of the level behind every line feed. The brace that closes
an object stands behind just these blanks. -/
theorem render_eq_indent
    {description : Description}
    (unbroken : ∀ name, (Catalog.ofDescription description).Declares name → '\n' ∉ name.toList)
    (options : Options)
    (location : Option String)
    (stack : List Pointer)
    (node : Option Node)
    {type : TypeExpr}
    (finished :
      (typeOf? ⟨.ofDescription description, options, location⟩ stack node).result = .ok type)
    (level : Nat) :
    (type.render level).toList = indent level (type.render 0).toList ∧
      ∀ members, type = .object members →
        ∃ before, (type.render level).toList = before ++ '\n' :: (blanks level ++ ['}']) := by
  have formed : Formed ⟨.ofDescription description, options, location⟩ type :=
    yields_typeOf? (.keyword .unknown) (formed_typeOf _) stack node type finished
  constructor
  · have shifted := formed.render_add unbroken 0 level
    rwa [Nat.zero_add] at shifted
  · rintro members rfl
    cases formed with
    | object filled =>
        rw [TypeExpr.toList_render_lines filled, ← List.append_assoc]
        exact ⟨_, rfl⟩

/-- An object with a comment of several lines, two levels deep. -/
theorem render_eq_indent_of_described :
    let description : Description := { components := { schemas := [("Pet", .inline {})] } }
    let schema : Schema :=
      { types := ["object"]
        properties := some [("a", .inline { types := ["string"], description := some "x\ny" })] }
    let options : Options := { includeDescriptions := true }
    let type : TypeExpr := .object
      [⟨.quoted "a", .keyword .string, true, false, ["/**", " * x", " * y", " */"]⟩]
    (typeOf? ⟨.ofDescription description, options, none⟩ []
        (some (.inline schema))).result = .ok type ∧
      (type.render 2).toList = indent 2 (type.render 0).toList ∧
      ∃ before, (type.render 2).toList = before ++ '\n' :: (blanks 2 ++ ['}']) := by
  intro description schema options type
  have finished : (typeOf? ⟨.ofDescription description, options, none⟩ []
      (some (.inline schema))).result = .ok type := by
    cbv
  have names : (Catalog.ofDescription description).names = [("Pet", "Pet")] := by cbv
  have unbroken : ∀ name, (Catalog.ofDescription description).Declares name →
      '\n' ∉ name.toList := by
    rintro name ⟨key, listed⟩
    rw [names, List.mem_singleton] at listed
    cases listed
    decide
  obtain ⟨shifted, closed⟩ := render_eq_indent unbroken options none [] _ finished 2
  exact ⟨finished, shifted, closed _ rfl⟩

end Typing

end ApiTypings
