import ApiTypings.Proofs.TypeScript.Rendering
import ApiTypings.Proofs.TypeScript.Scanning

/-!
# Brackets in types are matched

The tokens of a type are nested: every bracket is closed, and none is closed that
was not opened. Hence no operator inside an object is at top level.
-/

namespace ApiTypings
namespace TypeScript

/-! ## Nested tokens -/

/-- Whether a token can stand anywhere between brackets. -/
def Token.isNeutral : Token → Bool
  | .mark c => !Scan.isOpening c && !Scan.isClosing c
  | .template raw => raw == "$\x7bstring\x7d".toList
  | .unfinished => false
  | _ => true

@[simp] theorem Token.isNeutral_mark (c : Char) :
    (Token.mark c).isNeutral = (!Scan.isOpening c && !Scan.isClosing c) := rfl

@[simp] theorem Token.isNeutral_word (text : String) : (Token.word text).isNeutral = true := rfl

@[simp] theorem Token.isNeutral_number (text : String) : (Token.number text).isNeutral = true := rfl

/-- Tokens in which brackets are matched. -/
inductive Nested : List Token → Prop
  | nil : Nested []
  | single {token : Token} (neutral : token.isNeutral = true) : Nested [token]
  | append
      {first second : List Token}
      (left : Nested first)
      (right : Nested second) :
      Nested (first ++ second)
  | bracketed
      {opening closing : Char}
      {inner : List Token}
      (opens : Scan.isOpening opening = true)
      (closes : Scan.isClosing closing = true)
      (nested : Nested inner) :
      Nested (.mark opening :: (inner ++ [.mark closing]))

namespace Nested

variable {tokens : List Token}

theorem cons {token : Token} (neutral : token.isNeutral = true) (nested : Nested tokens) :
    Nested (token :: tokens) :=
  .append (.single neutral) nested

theorem of_neutral (neutral : ∀ token ∈ tokens, token.isNeutral = true) : Nested tokens := by
  induction tokens with
  | nil => exact .nil
  | cons token rest hypothesis =>
      refine cons (neutral token List.mem_cons_self) (hypothesis ?_)
      intro other member
      exact neutral other (List.mem_cons_of_mem token member)

theorem flatMap
    {α : Type}
    {items : List α}
    {change : α → List Token}
    (each : ∀ item ∈ items, Nested (change item)) :
    Nested (items.flatMap change) := by
  induction items with
  | nil => exact .nil
  | cons item rest hypothesis =>
      rw [List.flatMap_cons]
      refine .append (each item List.mem_cons_self) (hypothesis ?_)
      intro other member
      exact each other (List.mem_cons_of_mem item member)

theorem intercalate
    {separator : Token}
    (neutral : separator.isNeutral = true)
    {lists : List (List Token)}
    (each : ∀ list ∈ lists, Nested list) :
    Nested ([separator].intercalate lists) := by
  induction lists with
  | nil => exact .nil
  | cons first rest hypothesis =>
      cases rest with
      | nil =>
          rw [List.intercalate_singleton]
          exact each first List.mem_cons_self
      | cons second rest =>
          rw [List.intercalate_cons_cons]
          refine .append (.append (each first List.mem_cons_self) (.single neutral))
            (hypothesis ?_)
          intro other member
          exact each other (List.mem_cons_of_mem first member)

theorem grouped (flag : Bool) (nested : Nested tokens) : Nested (groupedTokens flag tokens) := by
  cases flag with
  | false => exact nested
  | true => exact .bracketed rfl rfl nested

theorem isScannable (nested : Nested tokens) : ∀ token ∈ tokens, token.IsScannable := by
  induction nested with
  | nil => simp
  | @single token neutral =>
      intro other member
      rw [List.mem_singleton.mp member]
      cases token with
      | template raw => exact eq_of_beq neutral
      | unfinished => contradiction
      | _ => trivial
  | append _ _ left right =>
      intro token member
      rcases List.mem_append.mp member with inFirst | inSecond
      · exact left token inFirst
      · exact right token inSecond
  | bracketed _ _ _ hypothesis =>
      intro token member
      simp only [List.mem_cons, List.mem_append, List.not_mem_nil, or_false] at member
      rcases member with rfl | inside | rfl
      · trivial
      · exact hypothesis token inside
      · trivial

theorem bracket_of_isNeutral {token : Token} (neutral : token.isNeutral = true) :
    token.bracket = 0 := by
  cases token with
  | mark c =>
      simp only [Token.isNeutral_mark, Bool.and_eq_true, Bool.not_eq_true'] at neutral
      simp [Token.bracket, neutral]
  | _ => rfl

theorem bracket_of_opening {c : Char} (opens : Scan.isOpening c = true) :
    (Token.mark c).bracket = 1 := by
  simp [Token.bracket, opens]

theorem bracket_of_closing {c : Char} (closes : Scan.isClosing c = true) :
    (Token.mark c).bracket = -1 := by
  simp only [Scan.isClosing, Bool.or_eq_true, beq_iff_eq] at closes
  rcases closes with ((rfl | rfl) | rfl) | rfl
  all_goals rfl

theorem brackets_eq (nested : Nested tokens) : brackets tokens = 0 := by
  induction nested with
  | nil => rfl
  | single neutral => simp [brackets, bracket_of_isNeutral neutral]
  | append _ _ left right => rw [brackets_append, left, right, Int.add_zero]
  | bracketed opens closes _ hypothesis =>
      simp only [brackets, List.map_cons, List.map_append, List.map_nil, List.sum_cons,
        List.sum_append, List.sum_nil] at hypothesis ⊢
      rw [bracket_of_opening opens, bracket_of_closing closes, hypothesis]
      rfl

/-- Inside a bracket no operator is at depth zero. -/
theorem operatorCount_eq
    (nested : Nested tokens)
    (operator : Char)
    {depth : Int}
    (inside : 0 < depth) :
    operatorCount operator depth tokens = 0 := by
  induction nested generalizing depth with
  | nil => rfl
  | single neutral =>
      have deep : depth ≠ 0 := by omega
      simp [operatorCount, deep]
  | append left _ leftHypothesis rightHypothesis =>
      rw [operatorCount_append, left.brackets_eq, Int.add_zero, leftHypothesis inside,
        rightHypothesis inside]
  | bracketed opens closes nested hypothesis =>
      have deep : depth ≠ 0 := by omega
      have deeper : 0 < depth + 1 := by omega
      have still : depth + 1 ≠ 0 := by omega
      simp [operatorCount, operatorCount_append, bracket_of_opening opens, nested.brackets_eq,
        hypothesis deeper, deep, still]

/-- No operator is at depth zero if brackets stand around the tokens. -/
theorem operatorCount_bracketed
    {operator : Char}
    (joint : isJoint operator = true)
    {opening closing : Char}
    (opens : Scan.isOpening opening = true)
    (closes : Scan.isClosing closing = true)
    (nested : Nested tokens) :
    operatorCount operator 0 (.mark opening :: (tokens ++ [.mark closing])) = 0 := by
  have still := (isJoint_cases joint).2.1
  simp only [isSignal, Bool.or_eq_false_iff] at still
  have notOpening : opening ≠ operator := by
    rintro rfl
    rw [opens] at still
    exact Bool.noConfusion still.1.2
  have notClosing : closing ≠ operator := by
    rintro rfl
    rw [closes] at still
    exact Bool.noConfusion still.2
  simp [operatorCount, operatorCount_append, bracket_of_opening opens, nested.brackets_eq,
    nested.operatorCount_eq, notOpening, notClosing]

end Nested

/-! ## Plain texts -/

/-- Whether a character opens nothing: no string, template, comment or bracket. -/
def isTame (c : Char) : Bool :=
  isPlain c && !Scan.isOpening c && !Scan.isClosing c

theorem isNeutral_finish
    {lexing : Lexing}
    (resting : lexing.IsResting) :
    ∀ token ∈ lexing.finish, token.isNeutral = true := by
  cases lexing with
  | code => simp [Lexing.finish]
  | word read => simp [Lexing.finish]
  | number read => simp [Lexing.finish]
  | _ => exact resting.elim

theorem isNeutral_enter {c : Char} (tame : isTame c = true) :
    ∀ token ∈ (Lexing.enter c).2, token.isNeutral = true := by
  simp only [isTame, Bool.and_eq_true] at tame
  unfold Lexing.enter
  split
  · simp
  · split
    · simp
    · split
      · simp
      · split
        · simp
        · split
          · simp
          · split
            · simp
            · simp [tame]

theorem isNeutral_advance
    {lexing : Lexing}
    (resting : lexing.IsResting)
    {c : Char}
    (tame : isTame c = true) :
    ∀ token ∈ (lexing.advance c).2, token.isNeutral = true := by
  have left : ∀ token ∈ (lexing.leave c).2, token.isNeutral = true := by
    intro token member
    rcases List.mem_append.mp member with finished | entered
    · exact isNeutral_finish resting token finished
    · exact isNeutral_enter tame token entered
  cases lexing with
  | code => exact isNeutral_enter tame
  | word read =>
      simp only [Lexing.advance]
      split
      · simp
      · exact left
  | number read =>
      simp only [Lexing.advance]
      split
      · simp
      · exact left
  | _ => exact resting.elim

/-- A text that opens nothing is nested. -/
theorem nested_of_tame {text : List Char} (tame : text.all isTame = true) :
    Nested (tokens text) := by
  have general {lexing : Lexing} (resting : lexing.IsResting) :
      ∀ token ∈ lexing.lex text, token.isNeutral = true := by
    induction text generalizing lexing with
    | nil => exact isNeutral_finish resting
    | cons c text hypothesis =>
        simp only [List.all_cons, Bool.and_eq_true] at tame
        have plain : isPlain c = true := by
          have here := tame.1
          simp only [isTame, Bool.and_eq_true] at here
          exact here.1.1
        intro token member
        rcases List.mem_append.mp member with now | later
        · exact isNeutral_advance resting tame.1 token now
        · exact hypothesis tame.2 (resting.advance plain) token later
  have resting : Lexing.code.IsResting := trivial
  exact .of_neutral (general resting)

theorem isTame_of_isNameChar {c : Char} (name : isNameChar c = true) : isTame c = true := by
  have special (other : Char) (noName : isNameChar other = false) : c ≠ other := by
    rintro rfl
    rw [name] at noName
    contradiction
  simp only [isTame, isPlain, Scan.isOpening, Scan.isClosing, Bool.and_eq_true, bne_iff_ne,
    Bool.not_eq_true', Bool.or_eq_false_iff, beq_eq_false_iff_ne]
  refine ⟨⟨⟨⟨?_, ?_⟩, ?_⟩, ⟨⟨?_, ?_⟩, ?_⟩, ?_⟩, ⟨⟨?_, ?_⟩, ?_⟩, ?_⟩
  all_goals exact special _ rfl

/-! ## Tokens of types -/

theorem nested_numeral (negative : Bool) {text : String} (nested : Nested (tokens text.toList)) :
    Nested (Tree.numeral negative text).tokens := by
  rw [Tree.tokens]
  cases negative with
  | false => exact nested
  | true => exact .cons rfl nested

theorem nested_literal (value : Literal) : Nested value.tree.tokens := by
  have decimal {text : List Char} (numeral : IsNumeral text) :
      Nested (tokens (String.ofList text).toList) := by
    rw [String.toList_ofList, numeral.spells.tokens_eq]
    exact .single rfl
  cases value with
  | bool flag => cases flag <;> exact nested_of_tame rfl
  | int number => exact nested_numeral _ (decimal (isNumeral_digits number.natAbs))
  | float number =>
      unfold Literal.tree Tree.ofFloat
      dsimp only
      cases Decimal.Reading.ofFloat number with
      | notANumber => exact nested_numeral _ (nested_of_tame rfl)
      | infinite negative => exact nested_numeral _ (nested_of_tame rfl)
      | finite negative magnitude =>
          exact nested_numeral _ (decimal (isNumeral_shortest Decimal.Layout.json magnitude))
  | text content => exact .single rfl

theorem nested_keyword (word : Keyword) : Nested (tokens word.render.toList) :=
  nested_of_tame (by cases word <;> rfl)

theorem nested_field
    {τ : Type}
    (field : Field τ)
    {key type : List Token}
    (nestedKey : Nested key)
    (nestedType : Nested type) :
    Nested (field.tokens key type) := by
  unfold Field.tokens
  refine .append ?_ (.append nestedKey (.append ?_ (.cons rfl (.append nestedType (.single rfl)))))
  · split
    · exact .single rfl
    · exact .nil
  · split
    · exact .single rfl
    · exact .nil

theorem nested_fields
    {members : List (Member TypeExpr)}
    (keys : ∀ member ∈ members, Nested member.key.tokens)
    (types : ∀ member ∈ members, Nested member.type.tree.tokens) :
    Nested ((members.map Member.field).flatMap fun field =>
      field.tokens field.key.tokens field.type.tokens) := by
  refine .flatMap ?_
  intro field listed
  obtain ⟨member, inMembers, rfl⟩ := List.mem_map.mp listed
  exact nested_field _ (keys member inMembers) (types member inMembers)

variable {Name : String → Prop} {Key : MemberKey → Prop}

/-- In the tokens of a sound type brackets are matched. -/
theorem TypeExpr.Sound.nested
    (names : ∀ name, Name name → Nested (tokens name.toList))
    (keys : ∀ key, Key key → Nested key.tokens)
    {type : TypeExpr}
    (sound : type.Sound Name Key) :
    Nested type.tree.tokens := by
  induction sound with
  | keyword word => exact nested_keyword word
  | literal value => exact nested_literal value
  | reference named => exact names _ named
  | template => exact .single rfl
  | negation => exact nested_keyword .unknown
  | record value =>
      refine .cons rfl (.bracketed rfl rfl (.intercalate rfl ?_))
      intro list listed
      simp only [Tree.eachTokens, List.mem_cons, List.not_mem_nil, or_false] at listed
      rcases listed with rfl | rfl
      · exact nested_keyword .string
      · exact nested_keyword value
  | array _ hypothesis =>
      rw [tree, Tree.tokens_array]
      exact .append (hypothesis.grouped _) (.bracketed rfl rfl .nil)
  | tuple _ length hypothesis =>
      rw [tree, Tree.tokens_tuple]
      refine .bracketed rfl rfl (.intercalate rfl ?_)
      intro list listed
      obtain ⟨item, inItems, rfl⟩ := List.mem_map.mp listed
      rw [List.eq_of_mem_replicate inItems]
      exact hypothesis
  | object regular _ _ hypothesis =>
      rw [tree_object, Tree.tokens_object]
      refine .bracketed rfl rfl (nested_fields ?_ hypothesis)
      intro member inMembers
      exact keys _ (regular member inMembers)
  | union _ _ hypothesis =>
      rw [tree_union, Tree.tokens_union, List.map_map]
      refine .intercalate rfl ?_
      intro list listed
      obtain ⟨type, inTypes, rfl⟩ := List.mem_map.mp listed
      exact hypothesis type inTypes
  | intersection _ _ hypothesis =>
      rw [tree_intersection, Tree.tokens_intersection, List.map_map]
      refine .intercalate rfl ?_
      intro list listed
      obtain ⟨type, inTypes, rfl⟩ := List.mem_map.mp listed
      exact (hypothesis type inTypes).grouped _

/-- An object type is one member under every operator. -/
theorem length_splitTopLevel_object
    (names : ∀ name, Name name → Spells name.toList (tokens name.toList) ∧
      Nested (tokens name.toList))
    (keys : ∀ key, Key key → Spells key.render.toList key.tokens ∧ Nested key.tokens)
    {members : List (Member TypeExpr)}
    (sound : (TypeExpr.object members).Sound Name Key)
    {operator : Char}
    (joint : isJoint operator = true)
    (level : Nat) :
    (splitTopLevel ((TypeExpr.object members).render level).toList operator).length = 1 := by
  have nestedNames := fun name named => (names name named).2
  have nestedKeys := fun key kept => (keys key kept).2
  have spelled : tokens ((TypeExpr.object members).render level).toList =
      (TypeExpr.object members).tree.tokens :=
    (sound.spells_render (fun name named => (names name named).1)
      (fun key kept => (keys key kept).1) level).tokens_eq
  have whole := sound.nested nestedNames nestedKeys
  have inner : Nested ((members.map Member.field).flatMap fun field =>
      field.tokens field.key.tokens field.type.tokens) := by
    cases sound with
    | object regular _ types =>
        refine nested_fields (fun member listed => nestedKeys _ (regular member listed)) ?_
        intro member listed
        exact (types member listed).nested nestedNames nestedKeys
  rw [length_splitTopLevel joint _ (by rw [spelled]; exact whole.isScannable), spelled,
    TypeExpr.tree_object, Tree.tokens_object, inner.operatorCount_bracketed joint rfl rfl]

end TypeScript
end ApiTypings
