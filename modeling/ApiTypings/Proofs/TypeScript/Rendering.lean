import ApiTypings.Proofs.TypeScript.Comment
import ApiTypings.Proofs.TypeScript.Numeral

/-!
# The text of a type

The tree of a type expression and the tokens of a tree. The text of a type spells the
tokens of its tree, whatever its comments are.
-/

namespace ApiTypings
namespace TypeScript

open Decimal

/-! ## Trees -/

/-- How a float is read. -/
def Tree.ofFloat (number : Float) : Tree :=
  match Reading.ofFloat number with
  | .notANumber => .numeral false Layout.json.notANumber
  | .infinite negative => .numeral negative Layout.json.infinity
  | .finite negative magnitude =>
      .numeral negative (String.ofList (Layout.json.numeralText (shortest magnitude)))

/-- How a literal is read. -/
def Literal.tree : Literal → Tree
  | .bool flag => .name (if flag then "true" else "false")
  | .int number => .numeral (decide (number < 0)) (String.ofList (digits number.natAbs))
  | .float number => .ofFloat number
  | .text content => .string content

namespace TypeExpr

mutual

/-- How a type is read. Nothing is known of a negated type. -/
def tree : TypeExpr → Tree
  | .keyword word => .name word.render
  | .literal value => value.tree
  | .reference name => .name name
  | .template => .template "$\x7bstring\x7d".toList
  | .negation => .name Keyword.unknown.render
  | .record value => .generic "Record" [.name Keyword.string.render, .name value.render]
  | .array item => .array item.tree
  | .tuple item length => .tuple (List.replicate length item.tree)
  | .object members => .object (fields members)
  | .union first second rest => .union (first.tree :: second.tree :: trees rest)
  | .intersection first second rest => .intersection (first.tree :: second.tree :: trees rest)

/-- How several types are read. -/
def trees : List TypeExpr → List Tree
  | [] => []
  | type :: rest => type.tree :: trees rest

/-- How the members of an object type are read. -/
def fields : List (Member TypeExpr) → List (Field Tree)
  | [] => []
  | ⟨key, type, optional, readonly, _⟩ :: rest =>
      ⟨key, type.tree, optional, readonly⟩ :: fields rest

end

end TypeExpr

/-- How a member is read. -/
def Member.field (member : Member TypeExpr) : Field Tree :=
  ⟨member.key, member.type.tree, member.optional, member.readonly⟩

namespace TypeExpr

theorem trees_eq_map (types : List TypeExpr) : trees types = types.map tree := by
  induction types with
  | nil => rfl
  | cons type rest hypothesis => exact congrArg (type.tree :: ·) hypothesis

theorem fields_eq_map (members : List (Member TypeExpr)) :
    fields members = members.map Member.field := by
  induction members with
  | nil => rfl
  | cons member rest hypothesis =>
      obtain ⟨key, type, optional, readonly, comment⟩ := member
      exact congrArg (⟨key, type.tree, optional, readonly⟩ :: ·) hypothesis

theorem tree_object (members : List (Member TypeExpr)) :
    tree (.object members) = .object (members.map Member.field) :=
  congrArg Tree.object (fields_eq_map members)

theorem tree_union (first second : TypeExpr) (rest : List TypeExpr) :
    tree (.union first second rest) = .union ((first :: second :: rest).map tree) :=
  congrArg (fun others => Tree.union (first.tree :: second.tree :: others)) (trees_eq_map rest)

theorem tree_intersection (first second : TypeExpr) (rest : List TypeExpr) :
    tree (.intersection first second rest) =
      .intersection ((first :: second :: rest).map tree) :=
  congrArg (fun others => Tree.intersection (first.tree :: second.tree :: others))
    (trees_eq_map rest)

end TypeExpr

/-! ## Tokens of trees -/

/-- The tokens of a key. -/
def MemberKey.tokens : MemberKey → List Token
  | .word name => TypeScript.tokens name.toList
  | .quoted name => [.string (name.toList.flatMap Text.escape)]
  | .anyKey => [.mark '[', .word "key", .mark ':', .word "string", .mark ']']

/-- Tokens in parentheses if the flag says so. -/
def groupedTokens (flag : Bool) (tokens : List Token) : List Token :=
  if flag then .mark '(' :: (tokens ++ [.mark ')']) else tokens

namespace Tree

/-- Whether a tree is a union. -/
def isUnion : Tree → Bool
  | .union _ => true
  | _ => false

/-- Whether a tree has an operator at top level. -/
def isCompound : Tree → Bool
  | .union _ => true
  | .intersection _ => true
  | _ => false

mutual

/-- The tokens of a tree. Parentheses stand around a union in an intersection, and
around both in an array. -/
def tokens : Tree → List Token
  | .name word => TypeScript.tokens word.toList
  | .numeral negative digits =>
      (if negative then [.mark '-'] else []) ++ TypeScript.tokens digits.toList
  | .string content => [.string (content.toList.flatMap Text.escape)]
  | .template raw => [.template raw]
  | .generic word arguments =>
      .word word :: .mark '<' :: ([.mark ','].intercalate (eachTokens arguments) ++ [.mark '>'])
  | .array item => groupedTokens item.isCompound item.tokens ++ [.mark '[', .mark ']']
  | .tuple items => .mark '[' :: ([.mark ','].intercalate (eachTokens items) ++ [.mark ']'])
  | .object fields => .mark '{' :: (fieldTokens fields ++ [.mark '}'])
  | .union members => [.mark '|'].intercalate (eachTokens members)
  | .intersection parts => [.mark '&'].intercalate (partTokens parts)

/-- The tokens of each tree. -/
def eachTokens : List Tree → List (List Token)
  | [] => []
  | tree :: rest => tree.tokens :: eachTokens rest

/-- The tokens of each part of an intersection. -/
def partTokens : List Tree → List (List Token)
  | [] => []
  | tree :: rest => groupedTokens tree.isUnion tree.tokens :: partTokens rest

/-- The tokens of the members of an object. -/
def fieldTokens : List (Field Tree) → List Token
  | [] => []
  | ⟨key, type, optional, readonly⟩ :: rest =>
      (Field.mk key type optional readonly).tokens key.tokens type.tokens ++ fieldTokens rest

end

theorem eachTokens_eq_map (trees : List Tree) : eachTokens trees = trees.map tokens := by
  induction trees with
  | nil => rfl
  | cons tree rest hypothesis => exact congrArg (tree.tokens :: ·) hypothesis

theorem partTokens_eq_map (trees : List Tree) :
    partTokens trees = trees.map fun tree => groupedTokens tree.isUnion tree.tokens := by
  induction trees with
  | nil => rfl
  | cons tree rest hypothesis =>
      exact congrArg (groupedTokens tree.isUnion tree.tokens :: ·) hypothesis

theorem fieldTokens_eq_flatMap (fields : List (Field Tree)) :
    fieldTokens fields =
      fields.flatMap fun field => field.tokens field.key.tokens field.type.tokens := by
  induction fields with
  | nil => rfl
  | cons field rest hypothesis =>
      obtain ⟨key, type, optional, readonly⟩ := field
      exact congrArg ((Field.mk key type optional readonly).tokens key.tokens type.tokens ++ ·)
        hypothesis

theorem tokens_array (item : Tree) :
    tokens (.array item) = groupedTokens item.isCompound item.tokens ++ [.mark '[', .mark ']'] :=
  rfl

theorem tokens_tuple (items : List Tree) :
    tokens (.tuple items) =
      .mark '[' :: ([.mark ','].intercalate (items.map tokens) ++ [.mark ']']) :=
  congrArg (fun each => Token.mark '[' :: ([Token.mark ','].intercalate each ++ [Token.mark ']']))
    (eachTokens_eq_map items)

theorem tokens_object (fields : List (Field Tree)) :
    tokens (.object fields) =
      .mark '{' :: (fields.flatMap (fun field => field.tokens field.key.tokens field.type.tokens) ++
        [.mark '}']) :=
  congrArg (fun each => Token.mark '{' :: (each ++ [Token.mark '}'])) (fieldTokens_eq_flatMap fields)

theorem tokens_union (members : List Tree) :
    tokens (.union members) = [.mark '|'].intercalate (members.map tokens) :=
  congrArg [Token.mark '|'].intercalate (eachTokens_eq_map members)

theorem tokens_intersection (parts : List Tree) :
    tokens (.intersection parts) =
      [.mark '&'].intercalate (parts.map fun part => groupedTokens part.isUnion part.tokens) :=
  congrArg [Token.mark '&'].intercalate (partTokens_eq_map parts)

end Tree

namespace TypeExpr

theorem isCompound_literal (value : Literal) :
    value.tree.isUnion = false ∧ value.tree.isCompound = false := by
  cases value with
  | float number =>
      unfold Literal.tree Tree.ofFloat
      dsimp only
      split <;> exact ⟨rfl, rfl⟩
  | _ => exact ⟨rfl, rfl⟩

theorem isUnion_tree (type : TypeExpr) : type.tree.isUnion = type.isUnion := by
  cases type with
  | literal value => exact (isCompound_literal value).1
  | _ => rfl

theorem isCompound_tree (type : TypeExpr) : type.tree.isCompound = type.isCompound := by
  cases type with
  | literal value => exact (isCompound_literal value).2
  | _ => rfl

/-! ## Sound types -/

/-- A type is put together in the regular way: its names and keys are of the given
kinds, its comments are comments, and no union is directly inside a union and no
intersection directly inside an intersection. -/
inductive Sound (Name : String → Prop) (Key : MemberKey → Prop) : TypeExpr → Prop
  | keyword (word : Keyword) : Sound Name Key (.keyword word)
  | literal (value : Literal) : Sound Name Key (.literal value)
  | reference {name : String} (named : Name name) : Sound Name Key (.reference name)
  | template : Sound Name Key .template
  | negation : Sound Name Key .negation
  | record (value : Keyword) : Sound Name Key (.record value)
  | array {item : TypeExpr} (sound : Sound Name Key item) : Sound Name Key (.array item)
  | tuple {item : TypeExpr} (sound : Sound Name Key item) (length : Nat) :
      Sound Name Key (.tuple item length)
  | object
      {members : List (Member TypeExpr)}
      (keys : ∀ member ∈ members, Key member.key)
      (comments : ∀ member ∈ members, Silent member.comment)
      (types : ∀ member ∈ members, Sound Name Key member.type) :
      Sound Name Key (.object members)
  | union
      {first second : TypeExpr}
      {rest : List TypeExpr}
      (flat : ∀ type ∈ first :: second :: rest, type.alternatives = [type])
      (each : ∀ type ∈ first :: second :: rest, Sound Name Key type) :
      Sound Name Key (.union first second rest)
  | intersection
      {first second : TypeExpr}
      {rest : List TypeExpr}
      (flat : ∀ type ∈ first :: second :: rest, type.parts = [type])
      (each : ∀ type ∈ first :: second :: rest, Sound Name Key type) :
      Sound Name Key (.intersection first second rest)

end TypeExpr

/-! ## Pieces of a type -/

theorem toList_indentation (level : Nat) :
    (indentation level).toList = List.replicate (2 * level) ' ' :=
  String.toList_ofList

namespace TypeExpr

variable (level : Nat)

theorem toList_render_record (value : Keyword) :
    (render level (.record value)).toList =
      "Record<string, ".toList ++ (value.render.toList ++ ['>']) := by
  simp [render]

theorem toList_render_array (item : TypeExpr) :
    (render level (.array item)).toList =
      (grouped item.isCompound (item.render level)).toList ++ ['[', ']'] := by
  simp [render]

theorem toList_render_tuple (item : TypeExpr) (length : Nat) :
    (render level (.tuple item length)).toList =
      ['['] ++ ([',', ' '].intercalate
        ((List.replicate length item).map fun other => (other.render level).toList) ++ [']']) := by
  simp [render, String.toList_intercalate]

theorem toList_render_members (members : List (Member TypeExpr)) :
    (render level (.object members)).toList =
      ['{', '\n'] ++ ((['\n'].intercalate
        ((renderMembers (level + 1) members).map String.toList) ++ ['\n']) ++
          (List.replicate (2 * level) ' ' ++ ['}'])) := by
  simp [render, String.toList_intercalate, toList_indentation]

theorem toList_render_union (first second : TypeExpr) (rest : List TypeExpr) :
    (render level (.union first second rest)).toList =
      [' ', '|', ' '].intercalate
        ((first :: second :: rest).map fun type => (type.render level).toList) := by
  simp [render_union, String.toList_intercalate, Function.comp_def]

theorem toList_render_intersection (first second : TypeExpr) (rest : List TypeExpr) :
    (render level (.intersection first second rest)).toList =
      [' ', '&', ' '].intercalate
        ((first :: second :: rest).map fun type =>
          (grouped type.isUnion (type.render level)).toList) := by
  simp [render_intersection, String.toList_intercalate, Function.comp_def]

end TypeExpr

/-- An integer is written as a sign and digits. -/
theorem toString_int (number : Int) :
    toString number =
      (if decide (number < 0) then "-" else "") ++ String.ofList (digits number.natAbs) := by
  rw [Int.toString_eq_repr, Int.repr_eq_if, Nat.repr_eq_ofList_toDigits,
    Nat.repr_eq_ofList_toDigits]
  by_cases negative : number < 0
  · have absolute : (-number).toNat = number.natAbs := by omega
    have notPositive : ¬ 0 ≤ number := by omega
    simp [negative, notPositive, absolute, digits]
  · have absolute : number.toNat = number.natAbs := by omega
    have positive : 0 ≤ number := by omega
    simp [negative, positive, absolute, digits]

theorem spells_keyword (word : Keyword) :
    Spells word.render.toList (tokens word.render.toList) :=
  spells_plain (by cases word <;> rfl)

/-- A sign is a token of its own. -/
theorem spells_signed
    (negative : Bool)
    {text : String}
    (plain : text.toList.all isPlain = true) :
    Spells ((if negative then "-" else "") ++ text).toList
      ((if negative then [.mark '-'] else []) ++ tokens text.toList) := by
  have sign : Stands ['-'] [.mark '-'] := fun _ => rfl
  rw [String.toList_append]
  cases negative with
  | false => exact spells_plain plain
  | true => exact sign.append_spells (spells_plain plain)

theorem spells_quoted (text : String) :
    Spells (Text.quoted text).toList [.string (text.toList.flatMap Text.escape)] := by
  unfold Text.quoted
  rw [String.toList_ofList]
  exact (stands_quote text.toList).spells

theorem spells_literal (value : Literal) : Spells value.render.toList value.tree.tokens := by
  cases value with
  | bool flag => cases flag <;> exact spells_plain rfl
  | int number =>
      have plain := (isNumeral_digits number.natAbs).isPlain
      rw [← String.toList_ofList (l := digits number.natAbs)] at plain
      have signed := spells_signed (decide (number < 0)) plain
      change Spells (toString number).toList _
      rw [toString_int]
      exact signed
  | float number =>
      unfold Literal.render Literal.tree Tree.ofFloat Layout.text
      dsimp only
      cases Reading.ofFloat number with
      | notANumber => exact spells_plain rfl
      | infinite negative => exact spells_signed negative rfl
      | finite negative magnitude =>
          have plain := (isNumeral_shortest Layout.json magnitude).isPlain
          rw [← String.toList_ofList (l := Layout.json.numeralText _)] at plain
          exact spells_signed negative plain
  | text content => exact spells_quoted content

theorem spells_grouped
    (flag : Bool)
    {text : String}
    {spelled : List Token}
    (spells : Spells text.toList spelled) :
    Spells (grouped flag text).toList (groupedTokens flag spelled) := by
  have opening : Stands ['('] [.mark '('] := fun _ => rfl
  have closing : Stands [')'] [.mark ')'] := fun _ => rfl
  cases flag with
  | false => exact spells
  | true =>
      have inner := (spells.append_stands rfl closing).spells
      have whole := opening.append_spells inner
      simpa [grouped, groupedTokens] using whole

/-- Between lines there are line feeds, so that all but the last one end with one. -/
theorem intercalate_lines (lines : List String) (last : String) :
    ['\n'].intercalate ((lines ++ [last]).map String.toList) =
      (lines.flatMap fun line => line.toList ++ ['\n']) ++ last.toList := by
  induction lines with
  | nil => simp
  | cons line rest hypothesis =>
      have more : (rest ++ [last]).map String.toList ≠ [] := by simp
      rw [List.cons_append, List.map_cons, List.intercalate_cons_of_ne_nil more, hypothesis,
        List.flatMap_cons]
      simp only [List.append_assoc]

/-- Lines with line feeds between them and one at the end. -/
theorem stands_lines
    {lines : List String}
    {spelled : List Token}
    (stands : Stands (lines.flatMap fun line => line.toList ++ ['\n']) spelled) :
    Stands (['\n'].intercalate (lines.map String.toList) ++ ['\n']) spelled := by
  rcases List.eq_nil_or_concat' lines with rfl | ⟨init, last, rfl⟩
  · have newline : Stands ['\n'] [] := stands_blank rfl
    exact newline.append stands
  · rw [intercalate_lines, List.append_assoc]
    rw [List.flatMap_append, List.flatMap_singleton] at stands
    exact stands

/-- A member and the comment in front of it, each line ended. -/
theorem stands_member
    {member : Member TypeExpr}
    {level : Nat}
    {text : String}
    {type : List Token}
    (silent : Silent member.comment)
    (key : Spells member.key.render.toList member.key.tokens)
    (typed : Spells text.toList type) :
    Stands ((member.lines level text).flatMap fun line => line.toList ++ ['\n'])
      (member.field.tokens member.key.tokens type) := by
  obtain ⟨name, stated, optional, readonly, comment⟩ := member
  have modifier :
      Stands (if readonly then "readonly " else "").toList
        (if readonly then [.word "readonly"] else []) := by
    cases readonly <;> exact fun _ => rfl
  have ending : Stands ";\n".toList [.mark ';'] := fun _ => rfl
  have colon : Stands ": ".toList [.mark ':'] := fun _ => rfl
  have value := colon.append (typed.append_stands rfl ending)
  have marked :
      Stands (name.render.toList ++ ((if optional then "?" else "").toList ++
          (": ".toList ++ (text.toList ++ ";\n".toList))))
        (name.tokens ++ ((if optional then [.mark '?'] else []) ++
          ([.mark ':'] ++ (type ++ [.mark ';'])))) := by
    have question : Stands "?".toList [.mark '?'] := fun _ => rfl
    cases optional with
    | false => exact key.append_stands rfl value
    | true => exact key.append_stands rfl (question.append value)
  have lines :
      ((Member.mk name stated optional readonly comment).lines level text).flatMap
          (fun line => line.toList ++ ['\n']) =
        comment.flatMap (fun line => List.replicate (2 * level) ' ' ++ line.toList ++ ['\n']) ++
          (List.replicate (2 * level) ' ' ++
            ((if readonly then "readonly " else "").toList ++
              (name.render.toList ++ ((if optional then "?" else "").toList ++
                (": ".toList ++ (text.toList ++ ";\n".toList)))))) := by
    simp [Member.lines, toList_indentation, List.flatMap_append, List.flatMap_map]
  rw [lines]
  exact (silent (2 * level)).append ((stands_blanks (2 * level)).append (modifier.append marked))

/-! ## Types -/

namespace TypeExpr

/-- What stands for a negated schema is a word and a comment. -/
theorem spells_negation : Spells negationText.toList [.word "unknown"] := by
  have word : Stands "unknown ".toList [.word "unknown"] := fun _ => rfl
  have remark : Unclosed " not: negated schemas are not expressible ".toList := by
    unfold Unclosed
    decide
  have text :
      negationText.toList =
        "unknown ".toList ++ '/' :: '*' ::
          (" not: negated schemas are not expressible ".toList ++ ['*', '/']) := by
    decide
  rw [text]
  exact (word.append (stands_comment remark)).spells

theorem spells_record (level : Nat) (value : Keyword) :
    Spells (render level (.record value)).toList (tree (.record value)).tokens := by
  have opening : Stands "Record<string, ".toList
      [.word "Record", .mark '<', .word "string", .mark ','] := fun _ => rfl
  have closing : Stands ['>'] [.mark '>'] := fun _ => rfl
  have whole := opening.append ((spells_keyword value).append_stands rfl closing)
  have word : tokens Keyword.string.render.toList = [.word "string"] := by decide
  have spelled : (tree (.record value)).tokens = .word "Record" :: .mark '<' ::
      ([.mark ','].intercalate
        [tokens Keyword.string.render.toList, tokens value.render.toList] ++ [.mark '>']) := rfl
  rw [toList_render_record, spelled, word, List.intercalate_cons_cons, List.intercalate_singleton]
  exact whole.spells

section Parts

variable {level : Nat}

theorem spells_array
    {item : TypeExpr}
    (spells : Spells (item.render level).toList item.tree.tokens) :
    Spells (render level (.array item)).toList (tree (.array item)).tokens := by
  have brackets : Stands ['[', ']'] [.mark '[', .mark ']'] := fun _ => rfl
  have shape : tree (.array item) = .array item.tree := rfl
  rw [toList_render_array, shape, Tree.tokens_array, isCompound_tree]
  have inner := spells_grouped item.isCompound spells
  exact (inner.append_stands rfl brackets).spells

theorem spells_tuple
    {item : TypeExpr}
    (spells : Spells (item.render level).toList item.tree.tokens)
    (length : Nat) :
    Spells (render level (.tuple item length)).toList (tree (.tuple item length)).tokens := by
  have opening : Stands ['['] [.mark '['] := fun _ => rfl
  have closing : Stands [']'] [.mark ']'] := fun _ => rfl
  have comma : Stands [',', ' '] [.mark ','] := fun _ => rfl
  have items :
      Spells ([',', ' '].intercalate
          ((List.replicate length item).map fun other => (other.render level).toList))
        ([.mark ','].intercalate
          ((List.replicate length item).map fun other => other.tree.tokens)) := by
    refine Spells.intercalate rfl comma ?_
    intro other member
    rw [List.eq_of_mem_replicate member]
    exact spells
  have shape : tree (.tuple item length) = .tuple (List.replicate length item.tree) := rfl
  rw [toList_render_tuple, shape, Tree.tokens_tuple, List.map_replicate, List.map_replicate]
  rw [List.map_replicate, List.map_replicate] at items
  exact (opening.append (items.append_stands rfl closing)).spells

theorem spells_object
    {members : List (Member TypeExpr)}
    (silent : ∀ member ∈ members, Silent member.comment)
    (keys : ∀ member ∈ members, Spells member.key.render.toList member.key.tokens)
    (types : ∀ member ∈ members,
      Spells (member.type.render (level + 1)).toList member.type.tree.tokens) :
    Spells (render level (.object members)).toList (tree (.object members)).tokens := by
  have opening : Stands ['{', '\n'] [.mark '{'] := fun _ => rfl
  have closing : Stands ['}'] [.mark '}'] := fun _ => rfl
  have inner :
      Stands ((renderMembers (level + 1) members).flatMap fun line => line.toList ++ ['\n'])
        ((members.map Member.field).flatMap fun field =>
          field.tokens field.key.tokens field.type.tokens) := by
    rw [renderMembers_eq_flatMap, List.flatMap_assoc, List.flatMap_map]
    apply Stands.flatMap
    intro member listed
    exact stands_member (silent member listed) (keys member listed) (types member listed)
  rw [toList_render_members, tree_object, Tree.tokens_object]
  exact (opening.append ((stands_lines inner).append
    ((stands_blanks (2 * level)).append closing))).spells

section Operators

variable
    {first second : TypeExpr}
    {rest : List TypeExpr}
    (each : ∀ type ∈ first :: second :: rest, Spells (type.render level).toList type.tree.tokens)

include each

theorem spells_union :
    Spells (render level (.union first second rest)).toList
      (tree (.union first second rest)).tokens := by
  have bar : Stands [' ', '|', ' '] [.mark '|'] := fun _ => rfl
  rw [toList_render_union, tree_union, Tree.tokens_union, List.map_map]
  exact Spells.intercalate rfl bar each

theorem spells_intersection :
    Spells (render level (.intersection first second rest)).toList
      (tree (.intersection first second rest)).tokens := by
  have ampersand : Stands [' ', '&', ' '] [.mark '&'] := fun _ => rfl
  rw [toList_render_intersection, tree_intersection, Tree.tokens_intersection, List.map_map]
  apply Spells.intercalate rfl ampersand
  intro type listed
  rw [Function.comp_apply, isUnion_tree]
  exact spells_grouped type.isUnion (each type listed)

end Operators

end Parts

variable {Name : String → Prop} {Key : MemberKey → Prop}

/-- The text of a type spells the tokens of its tree. -/
theorem Sound.spells_render
    (names : ∀ name, Name name → Spells name.toList (tokens name.toList))
    (keys : ∀ key, Key key → Spells key.render.toList key.tokens)
    {type : TypeExpr}
    (sound : type.Sound Name Key)
    (level : Nat) :
    Spells (type.render level).toList type.tree.tokens := by
  induction sound generalizing level with
  | keyword word => exact spells_keyword word
  | literal value => exact spells_literal value
  | reference named => exact names _ named
  | template =>
      have whole : Stands "`$\x7bstring\x7d`".toList [.template "$\x7bstring\x7d".toList] :=
        fun _ => rfl
      exact whole.spells
  | negation => exact spells_negation
  | record value => exact spells_record level value
  | array _ hypothesis => exact spells_array (hypothesis level)
  | tuple _ length hypothesis => exact spells_tuple (hypothesis level) length
  | object keyed comments _ hypothesis =>
      exact spells_object comments (fun member listed => keys _ (keyed member listed))
        fun member listed => hypothesis member listed (level + 1)
  | union _ _ hypothesis => exact spells_union fun type listed => hypothesis type listed level
  | intersection _ _ hypothesis =>
      exact spells_intersection fun type listed => hypothesis type listed level

end TypeExpr

end TypeScript
end ApiTypings
