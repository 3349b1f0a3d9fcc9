import ApiTypings.Proofs.TypeScript.Parser
import ApiTypings.Proofs.TypeScript.Rendering

/-!
# The text of a type is read as the type

The grammar reads the tokens of a tree as the tree, unless it holds a number that is
not finite. So the text of a type is read as its tree and as nothing else.
-/

namespace ApiTypings
namespace TypeScript

open Decimal

/-! ## Words and numbers -/

theorem Reads.toUnion
    {binding : Binding}
    {tokens : List Token}
    {tree : Tree}
    (reads : Reads binding tokens tree) :
    Reads .union tokens tree := by
  cases binding with
  | operand => exact .member (.part reads)
  | intersection => exact .member reads
  | union => exact reads

theorem reads_word {name : String} (word : isWord name.toList = true) :
    Reads .operand (tokens name.toList) (.name name) := by
  rw [(spells_word word).tokens_eq, String.ofList_toList]
  exact .name name

theorem reads_keyword (word : Keyword) :
    Reads .operand (tokens word.render.toList) (.name word.render) :=
  reads_word (by cases word <;> rfl)

theorem reads_signed
    (negative : Bool)
    {text : List Char}
    (numeral : IsNumeral text) :
    Reads .operand (Tree.numeral negative (String.ofList text)).tokens
      (.numeral negative (String.ofList text)) := by
  have decimal := numeral.isDecimal
  rw [← String.toList_ofList (l := text)] at decimal
  rw [Tree.tokens, String.toList_ofList, numeral.spells.tokens_eq]
  cases negative with
  | false => exact .number decimal
  | true => exact .negative decimal

theorem reads_literal {value : Literal} (finite : value.tree.Finite) :
    Reads .operand value.tree.tokens value.tree := by
  cases value with
  | bool flag => cases flag <;> exact reads_word rfl
  | int number => exact reads_signed _ (isNumeral_digits number.natAbs)
  | float number =>
      unfold Literal.tree Tree.ofFloat at finite ⊢
      dsimp only at finite ⊢
      cases found : Reading.ofFloat number with
      | notANumber =>
          rw [found] at finite
          cases finite with
          | numeral _ number _ => exact absurd rfl number
      | infinite negative =>
          rw [found] at finite
          cases finite with
          | numeral _ _ bounded => exact absurd rfl bounded
      | finite negative magnitude =>
          exact reads_signed negative (isNumeral_shortest Layout.json magnitude)
  | text content => exact .string (Json.unquote?_escape content)

/-! ## Trees -/

namespace Tree

theorem reads_tuple
    {items : List Tree}
    (each : ∀ item ∈ items, Reads .union item.tokens item) :
    Reads .operand (Tree.tuple items).tokens (.tuple items) := by
  have pairs : ∀ pair ∈ items.map fun item => (item.tokens, item), Reads .union pair.1 pair.2 := by
    intro pair listed
    obtain ⟨item, member, rfl⟩ := List.mem_map.mp listed
    exact each item member
  have reads := Reads.tuple pairs
  rw [List.map_map, List.map_map] at reads
  rw [tokens, eachTokens_eq_map]
  simpa [Function.comp_def] using reads

theorem reads_object
    {fields : List (Field Tree)}
    (keys : ∀ field ∈ fields, ReadsKey field.key.tokens field.key)
    (types : ∀ field ∈ fields, Reads .union field.type.tokens field.type) :
    Reads .operand (Tree.object fields).tokens (.object fields) := by
  have readsKeys : ∀ entry ∈ fields.map fun field => (field, field.key.tokens, field.type.tokens),
      ReadsKey entry.2.1 entry.1.key := by
    intro entry listed
    obtain ⟨field, member, rfl⟩ := List.mem_map.mp listed
    exact keys field member
  have readsTypes : ∀ entry ∈ fields.map fun field => (field, field.key.tokens, field.type.tokens),
      Reads .union entry.2.2 entry.1.type := by
    intro entry listed
    obtain ⟨field, member, rfl⟩ := List.mem_map.mp listed
    exact types field member
  have reads := Reads.object readsKeys readsTypes
  rw [List.map_map, List.flatMap_map] at reads
  rw [tokens, fieldTokens_eq_flatMap]
  simpa [Function.comp_def] using reads

theorem reads_union
    {members : List Tree}
    (several : 2 ≤ members.length)
    (each : ∀ member ∈ members, Reads .intersection member.tokens member) :
    Reads .union (Tree.union members).tokens (.union members) := by
  have pairs : ∀ pair ∈ members.map fun member => (member.tokens, member),
      Reads .intersection pair.1 pair.2 := by
    intro pair listed
    obtain ⟨member, inMembers, rfl⟩ := List.mem_map.mp listed
    exact each member inMembers
  have reads := Reads.union (by simpa using several) pairs
  rw [List.map_map, List.map_map] at reads
  rw [tokens, eachTokens_eq_map]
  simpa [Function.comp_def] using reads

theorem reads_intersection
    {parts : List Tree}
    (several : 2 ≤ parts.length)
    (each : ∀ part ∈ parts, Reads .operand (groupedTokens part.isUnion part.tokens) part) :
    Reads .intersection (Tree.intersection parts).tokens (.intersection parts) := by
  have pairs : ∀ pair ∈ parts.map fun part => (groupedTokens part.isUnion part.tokens, part),
      Reads .operand pair.1 pair.2 := by
    intro pair listed
    obtain ⟨part, member, rfl⟩ := List.mem_map.mp listed
    exact each part member
  have reads := Reads.intersection (by simpa using several) pairs
  rw [List.map_map, List.map_map] at reads
  rw [tokens, partTokens_eq_map]
  simpa [Function.comp_def] using reads

end Tree

/-! ## Types -/

variable {Name : String → Prop} {Key : MemberKey → Prop}

namespace TypeExpr

/-- How tight the text of a type is bound. -/
def binding : TypeExpr → Binding
  | .union .. => .union
  | .intersection .. => .intersection
  | _ => .operand

/-- Parentheses make an operand of every type. -/
theorem reads_grouped
    {type : TypeExpr}
    {flag : Bool}
    (reads : Reads type.binding type.tree.tokens type.tree)
    (operand : flag = false → type.binding = .operand) :
    Reads .operand (groupedTokens flag type.tree.tokens) type.tree := by
  cases flag with
  | false =>
      rw [operand rfl] at reads
      exact reads
  | true => exact .group reads.toUnion

theorem binding_of_isCompound {type : TypeExpr} (simple : type.isCompound = false) :
    type.binding = .operand := by
  cases type with
  | union => contradiction
  | intersection => contradiction
  | _ => rfl

/-- A type that is no union is a member of one. -/
theorem reads_member
    {type : TypeExpr}
    (alone : type.alternatives = [type])
    (reads : Reads type.binding type.tree.tokens type.tree) :
    Reads .intersection type.tree.tokens type.tree := by
  cases type with
  | union => simp [alternatives] at alone
  | intersection => exact reads
  | _ => exact .part reads

/-- A type that is no intersection is a part of one, in parentheses if it is a union. -/
theorem reads_part
    {type : TypeExpr}
    (alone : type.parts = [type])
    (reads : Reads type.binding type.tree.tokens type.tree) :
    Reads .operand (groupedTokens type.tree.isUnion type.tree.tokens) type.tree := by
  apply reads_grouped reads
  intro noUnion
  rw [isUnion_tree] at noUnion
  cases type with
  | union => contradiction
  | intersection => simp [parts] at alone
  | _ => rfl

/-- The grammar reads the tokens of a type as its tree. -/
theorem Sound.reads_tokens
    (names : ∀ name, Name name → isWord name.toList = true)
    (keys : ∀ key, Key key → ReadsKey key.tokens key)
    {type : TypeExpr}
    (sound : type.Sound Name Key)
    (finite : type.tree.Finite) :
    Reads type.binding type.tree.tokens type.tree := by
  induction sound with
  | keyword word => exact reads_keyword word
  | literal value => exact reads_literal finite
  | reference named => exact reads_word (names _ named)
  | template => exact .template _
  | negation => exact reads_keyword .unknown
  | record value =>
      have each : ∀ argument ∈ [Keyword.string, value].map fun keyword =>
          (tokens keyword.render.toList, Tree.name keyword.render),
          Reads .union argument.1 argument.2 := by
        intro argument listed
        obtain ⟨keyword, _, rfl⟩ := List.mem_map.mp listed
        exact (reads_keyword keyword).toUnion
      exact .generic "Record" (by simp) each
  | @array item _ hypothesis =>
      cases finite with
      | array finiteItem =>
          rw [tree, Tree.tokens, isCompound_tree]
          exact .array (reads_grouped (hypothesis finiteItem) binding_of_isCompound)
  | @tuple item _ length hypothesis =>
      apply Tree.reads_tuple
      intro tree listed
      cases finite with
      | tuple finiteItems =>
          have same := List.eq_of_mem_replicate listed
          have finiteItem := finiteItems tree listed
          rw [same] at finiteItem ⊢
          exact (hypothesis finiteItem).toUnion
  | @object members keyed _ _ hypothesis =>
      rw [tree_object] at finite ⊢
      apply Tree.reads_object <;> intro field listed <;>
        obtain ⟨member, inMembers, rfl⟩ := List.mem_map.mp listed
      · exact keys _ (keyed member inMembers)
      · cases finite with
        | object finiteFields =>
            exact (hypothesis member inMembers (finiteFields _ listed)).toUnion
  | @union first second rest flat _ hypothesis =>
      rw [tree_union] at finite ⊢
      apply Tree.reads_union (by simp)
      intro tree listed
      obtain ⟨type, member, rfl⟩ := List.mem_map.mp listed
      cases finite with
      | union finiteMembers =>
          exact reads_member (flat type member) (hypothesis type member (finiteMembers _ listed))
  | @intersection first second rest flat _ hypothesis =>
      rw [tree_intersection] at finite ⊢
      apply Tree.reads_intersection (by simp)
      intro tree listed
      obtain ⟨type, member, rfl⟩ := List.mem_map.mp listed
      cases finite with
      | intersection finiteParts =>
          exact reads_part (flat type member) (hypothesis type member (finiteParts _ listed))

/-- The text of a type is read as its tree and as nothing else, exactly if every
number in it is finite. -/
theorem Sound.parses_iff
    (names : ∀ name, Name name → isWord name.toList = true)
    (keys : ∀ key, Key key →
      Spells key.render.toList key.tokens ∧ ReadsKey key.tokens key)
    {type : TypeExpr}
    (sound : type.Sound Name Key)
    (level : Nat) :
    (∀ other, Parses (type.render level) other ↔ other = type.tree) ↔ type.tree.Finite := by
  have plain : ∀ name, Name name → Spells name.toList (tokens name.toList) := by
    intro name named
    rw [(spells_word (names name named)).tokens_eq]
    exact spells_word (names name named)
  have spelled : tokens (type.render level).toList = type.tree.tokens :=
    (sound.spells_render plain (fun key kept => (keys key kept).1) level).tokens_eq
  unfold Parses
  rw [spelled]
  constructor
  · intro unique
    exact ((unique type.tree).mpr rfl).finite
  · intro finite other
    have reads := (sound.reads_tokens names (fun key kept => (keys key kept).2) finite).toUnion
    constructor
    · intro readsOther
      exact readsOther.unique reads
    · rintro rfl
      exact reads

end TypeExpr

end TypeScript
end ApiTypings
