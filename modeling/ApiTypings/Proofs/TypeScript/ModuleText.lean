import ApiTypings.Proofs.TypeScript.Rendering
import ApiTypings.TypeScript.Declaration

/-!
# The tokens of a module

Comments and the banner are no tokens, so that the tokens of a module are those of
its declarations in order.
-/

namespace ApiTypings
namespace TypeScript

/-! ## Declarations -/

/-- The tokens of a declaration, given those of its body. -/
def Declaration.tokens (declaration : Declaration) (body : List Token) : List Token :=
  let name := TypeScript.tokens declaration.name.toList
  match declaration.kind with
  | .interface => [.word "export", .word "interface"] ++ ((name ++ []) ++ body)
  | .type => [.word "export", .word "type"] ++ ((name ++ [.mark '=']) ++ (body ++ [.mark ';']))

/-- A comment in front of a statement is left out. -/
theorem spells_commented
    {comment : List String}
    (silent : Silent comment)
    {statement : String}
    {spelled : List Token}
    (spells : Spells statement.toList spelled) :
    Spells ("\n".intercalate (comment ++ [statement])).toList spelled := by
  have lines : Stands (comment.flatMap fun line => line.toList ++ ['\n']) [] := by
    simpa using silent 0
  have text : ("\n".intercalate (comment ++ [statement])).toList =
      (comment.flatMap fun line => line.toList ++ ['\n']) ++ statement.toList := by
    rw [String.toList_intercalate]
    exact intercalate_lines comment statement
  rw [text]
  exact lines.append_spells spells

/-- The text of a declaration spells its tokens. -/
theorem spells_declaration
    {declaration : Declaration}
    (silent : Silent declaration.comment)
    (named : Spells declaration.name.toList (tokens declaration.name.toList))
    {body : List Token}
    (spells : Spells declaration.body.toList body) :
    Spells declaration.render.toList (declaration.tokens body) := by
  unfold Declaration.render Declaration.tokens
  apply spells_commented silent
  cases declaration.kind with
  | interface =>
      have opening : Stands "export interface ".toList [.word "export", .word "interface"] :=
        fun _ => rfl
      have blank : Stands [' '] [] := stands_blank rfl
      have statement := opening.append_spells ((named.append_stands rfl blank).append_spells spells)
      simpa using statement
  | type =>
      have opening : Stands "export type ".toList [.word "export", .word "type"] := fun _ => rfl
      have equals : Stands [' ', '=', ' '] [.mark '='] := fun _ => rfl
      have ending : Stands [';'] [.mark ';'] := fun _ => rfl
      have value := (spells.append_stands rfl ending).spells
      have statement :=
        opening.append_spells ((named.append_stands rfl equals).append_spells value)
      simpa using statement

/-! ## Modules -/

/-- The banner is a comment. -/
theorem stands_banner : Stands banner.toList [] := by
  let body := ("*\n * This file was auto-generated by ts-open-api.\n" ++
    " * DO NOT MAKE DIRECT CHANGES TO THE FILE.\n ").toList
  have unclosed : Unclosed body := by
    unfold Unclosed
    decide
  have text : banner.toList = '/' :: '*' :: (body ++ ['*', '/']) := by
    decide
  rw [text]
  exact stands_comment unclosed

theorem nil_intercalate {α : Type} (lists : List (List α)) :
    [].intercalate lists = lists.flatten := by
  induction lists with
  | nil => rfl
  | cons first rest hypothesis =>
      cases rest with
      | nil => simp
      | cons second rest =>
          rw [List.intercalate_cons_cons, hypothesis, List.append_nil]
          rfl

/-- The tokens of blocks with blank lines between them. -/
theorem tokens_blocks
    {blocks : List String}
    (each : ∀ block ∈ blocks, Spells block.toList (tokens block.toList)) :
    tokens (if blocks.isEmpty then "" else "\n\n".intercalate blocks ++ "\n").toList =
      blocks.flatMap fun block => tokens block.toList := by
  have newline : Stands ['\n'] [] := stands_blank rfl
  have gap : Stands ['\n', '\n'] [] := newline.append newline
  have joined := (Spells.intercalate rfl gap each).append_stands rfl newline
  split
  · rename_i empty
    rw [List.isEmpty_iff.mp empty]
    rfl
  · have text : ("\n\n".intercalate blocks ++ "\n").toList =
        ['\n', '\n'].intercalate (blocks.map String.toList) ++ ['\n'] := by
      rw [String.toList_append, String.toList_intercalate]
      rfl
    rw [text, joined.spells.tokens_eq, nil_intercalate, List.append_nil, ← List.flatMap_def]

/-- The tokens of a module are those of its declarations. -/
theorem tokens_moduleText
    (header : Bool)
    {declarations : List Declaration}
    (each : ∀ declaration ∈ declarations,
      Spells declaration.render.toList (tokens declaration.render.toList)) :
    tokens (moduleText header declarations).toList =
      declarations.flatMap fun declaration => tokens declaration.render.toList := by
  have declared : ∀ block ∈ declarations.map Declaration.render,
      Spells block.toList (tokens block.toList) := by
    intro block listed
    obtain ⟨declaration, member, rfl⟩ := List.mem_map.mp listed
    exact each declaration member
  unfold moduleText
  cases header with
  | false =>
      rw [if_neg Bool.false_ne_true, List.nil_append, tokens_blocks declared, List.flatMap_map]
  | true =>
      have silent : tokens banner.toList = [] := stands_banner.spells.tokens_eq
      rw [if_pos rfl, List.singleton_append, tokens_blocks, List.flatMap_cons, silent,
        List.nil_append, List.flatMap_map]
      intro block listed
      rcases List.mem_cons.mp listed with rfl | later
      · rw [silent]
        exact stands_banner.spells
      · exact declared block later

end TypeScript
end ApiTypings
