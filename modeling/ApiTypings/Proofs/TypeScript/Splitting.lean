import ApiTypings.Proofs.TypeScript.Building
import ApiTypings.Proofs.TypeScript.Nesting

/-!
# The members of types

Where brackets are matched the scanner comes back to where it started, and it never is below
that depth. So what is joined by an operator falls into the members of the texts, and the
members of a type are those of its tree.
-/

namespace ApiTypings
namespace TypeScript

/-! ## The way of the scanner -/

namespace Scan

/-- The states of the scanner in front of every character of a text, and behind the last. -/
def trace (scan : Scan) : List Char → List Scan
  | [] => [scan]
  | c :: rest => scan :: trace (scan.advance c rest.head?) rest

/-- The scanner passes a text: it never is below depth zero, and it ends in a state. -/
structure Passes (scan : Scan) (text : List Char) (last : Scan) : Prop where
  above : ∀ state ∈ scan.trace text, 0 ≤ state.depth
  ends : scan.run text = last

theorem Passes.cons
    {scan last : Scan}
    {c : Char}
    {rest : List Char}
    (above : 0 ≤ scan.depth)
    (passes : (scan.advance c rest.head?).Passes rest last) :
    scan.Passes (c :: rest) last where
  above := List.forall_mem_cons.mpr ⟨above, passes.above⟩
  ends := passes.ends

theorem Passes.here {scan last : Scan} {text : List Char} (passes : scan.Passes text last) :
    0 ≤ scan.depth := by
  cases text with
  | nil => exact passes.above scan List.mem_cons_self
  | cons => exact passes.above scan List.mem_cons_self

/-- The scanner passes the template of any text. -/
theorem Passes.template
    {depth : Int}
    {rest : List Char}
    {last : Scan}
    (passes : Passes ⟨.code, depth⟩ rest last) :
    Passes ⟨.code, depth⟩ ("`$\x7bstring\x7d`".toList ++ rest) last := by
  have above : 0 ≤ depth := passes.here
  have deeper : 0 ≤ depth + 1 := by omega
  obtain ⟨states, ends⟩ := passes
  constructor
  · simpa [trace, advance, opensComment, isOpening, isClosing, above, deeper] using states
  · simpa [run, advance, opensComment, isOpening, isClosing] using ends

end Scan

/-- No bracket among tokens that start at a depth is closed at depth zero. -/
def StaysAbove (depth : Int) : List Token → Prop
  | [] => 0 ≤ depth
  | token :: rest => 0 ≤ depth ∧ StaysAbove (depth + token.bracket) rest

theorem StaysAbove.here {depth : Int} {tokens : List Token} (above : StaysAbove depth tokens) :
    0 ≤ depth := by
  cases tokens with
  | nil => exact above
  | cons token rest => exact above.1

theorem staysAbove_append {depth : Int} {first second : List Token} :
    StaysAbove depth (first ++ second) ↔
      StaysAbove depth first ∧ StaysAbove (depth + brackets first) second := by
  induction first generalizing depth with
  | nil =>
      simp only [List.nil_append, brackets, List.map_nil, List.sum_nil, Int.add_zero]
      exact ⟨fun above => ⟨above.here, above⟩, And.right⟩
  | cons token rest hypothesis =>
      have depths : depth + token.bracket + brackets rest = depth + brackets (token :: rest) := by
        simp only [brackets, List.map_cons, List.sum_cons]
        omega
      rw [List.cons_append, StaysAbove, StaysAbove, hypothesis, depths, and_assoc]

theorem Nested.staysAbove
    {tokens : List Token}
    (nested : Nested tokens)
    {depth : Int}
    (above : 0 ≤ depth) :
    StaysAbove depth tokens := by
  induction nested generalizing depth with
  | nil => exact above
  | single neutral =>
      refine ⟨above, ?_⟩
      rw [bracket_of_isNeutral neutral, Int.add_zero]
      exact above
  | append left _ leftHypothesis rightHypothesis =>
      rw [staysAbove_append, left.brackets_eq, Int.add_zero]
      exact ⟨leftHypothesis above, rightHypothesis above⟩
  | bracketed opens closes nested hypothesis =>
      have deeper : 0 ≤ depth + 1 := by omega
      refine ⟨above, ?_⟩
      rw [bracket_of_opening opens, staysAbove_append, nested.brackets_eq, Int.add_zero]
      refine ⟨hypothesis deeper, deeper, ?_⟩
      rw [bracket_of_closing closes]
      change 0 ≤ depth + 1 + -1
      omega

/-- What is read at the end of a text is finished in code. -/
theorem mode_of_isScannable
    {lexing : Lexing}
    (scannable : ∀ token ∈ lexing.finish, token.IsScannable) :
    lexing.mode none = .code := by
  cases lexing with
  | string read => exact (scannable .unfinished List.mem_cons_self).elim
  | escaped read => exact (scannable .unfinished List.mem_cons_self).elim
  | comment star => exact (scannable .unfinished List.mem_cons_self).elim
  | _ => rfl

/-- Where the tokens stay above depth zero the scanner does, and it ends where they do. -/
theorem passes_lex
    {lexing : Lexing}
    (before : lexing.isTemplate = false)
    {depth : Int}
    (text : List Char)
    (scannable : ∀ token ∈ lexing.lex text, token.IsScannable)
    (above : StaysAbove depth (lexing.lex text)) :
    Scan.Passes ⟨lexing.mode text.head?, depth⟩ text
      ⟨.code, depth + brackets (lexing.lex text)⟩ := by
  have joint : isJoint '|' = true := rfl
  -- A template is passed as a whole, so the recursion is on the length of the text.
  match text with
  | [] =>
      have flat := (lexing.operatorCount_finish depth joint).1
      rw [Lexing.lex_nil] at scannable above ⊢
      rw [List.head?_nil, mode_of_isScannable scannable, flat, Int.add_zero]
      exact ⟨by simpa [Scan.trace] using above.here, rfl⟩
  | c :: rest =>
      rw [Lexing.lex_cons] at scannable above ⊢
      rw [brackets_append, ← Int.add_assoc]
      obtain ⟨_, aboveLater⟩ := staysAbove_append.mp above
      cases after : (lexing.advance c).1.isTemplate with
      | false =>
          refine .cons above.here ?_
          rw [List.head?_cons, (lexing.follows_advance depth rest.head? joint before after).advance]
          refine passes_lex after rest ?_ aboveLater
          intro token member
          exact scannable token (List.mem_append_right _ member)
      | true =>
          obtain ⟨rfl, inCode, opened⟩ := Lexing.advance_template before after
          have flat := (lexing.operatorCount_finish depth joint).1
          rw [opened, flat, Int.add_zero] at aboveLater
          rw [opened] at scannable
          rw [opened, flat, Int.add_zero]
          obtain ⟨behind, rfl, whole⟩ := Lexing.exists_behind_template fun token member =>
            scannable token (List.mem_append_right _ member)
          have unbracketed : (Token.template "$\x7bstring\x7d".toList).bracket = 0 := rfl
          have later : Scan.Passes ⟨Lexing.code.mode behind.head?, depth⟩ behind
              ⟨.code, depth + brackets (Lexing.code.lex behind)⟩ := by
            rw [whole] at scannable
            rw [whole, StaysAbove, unbracketed, Int.add_zero] at aboveLater
            refine passes_lex rfl behind ?_ aboveLater.2
            intro token member
            exact scannable token (List.mem_append_right _ (List.mem_cons_of_mem _ member))
          have same : brackets (Lexing.lex (.template []) ("$\x7bstring\x7d`".toList ++ behind)) =
              brackets (Lexing.code.lex behind) := by
            rw [whole, brackets, List.map_cons, List.sum_cons, unbracketed, Int.zero_add]
            rfl
          rw [List.head?_cons, inCode, same]
          exact later.template
termination_by text.length

/-- The scanner passes a text in which brackets are matched, and ends where it started. -/
theorem passes_of_nested {text : List Char} (nested : Nested (tokens text)) :
    Scan.start.Passes text Scan.start := by
  have whole : Scan.Passes ⟨Lexing.code.mode text.head?, 0⟩ text
      ⟨.code, 0 + brackets (tokens text)⟩ :=
    passes_lex rfl text nested.isScannable (nested.staysAbove (Int.le_refl 0))
  rw [nested.brackets_eq] at whole
  exact whole

/-! ## Joined texts -/

theorem trim_cons_blank {c : Char} (blank : Text.isBlank c = true) (text : List Char) :
    Text.trim (c :: text) = Text.trim text := by
  unfold Text.trim
  rw [List.dropWhile_cons_of_pos blank]

theorem trim_append_blank {c : Char} (blank : Text.isBlank c = true) (text : List Char) :
    Text.trim (text ++ [c]) = Text.trim text := by
  unfold Text.trim
  rw [List.dropWhile_append]
  split
  · rename_i empty
    rw [List.isEmpty_iff.mp empty, List.dropWhile_cons_of_pos blank, List.dropWhile_nil]
  · unfold Text.trimEnd
    rw [List.reverse_append, List.reverse_singleton, List.singleton_append,
      List.dropWhile_cons_of_pos blank]

/-- Only a star behind a text can open a comment with its last character. -/
theorem Scan.opensComment_append
    {rest : List Char}
    (other : rest.head? ≠ some '*')
    (c : Char)
    (text : List Char) :
    Scan.opensComment c (text ++ rest).head? = Scan.opensComment c text.head? := by
  cases text with
  | nil =>
      have no : (rest.head? == some '*') = false := beq_eq_false_iff_ne.mpr other
      simp [Scan.opensComment, no]
  | cons => rfl

variable {operator : Char}

/-- What follows a text goes on with its last piece. -/
theorem splitFrom_append
    (joint : isJoint operator = true)
    {rest : List Char}
    (other : rest.head? ≠ some '*')
    (scan : Scan)
    (current text : List Char) :
    ∃ pieces last, splitFrom operator scan current text = pieces ++ [last] ∧
      splitFrom operator scan current (text ++ rest) =
        pieces ++ splitFrom operator (scan.run text) last.reverse rest := by
  induction text generalizing scan current with
  | nil => exact ⟨[], current.reverse, rfl, by simp [Scan.run]⟩
  | cons c text hypothesis =>
      have same : scan.advance c (text ++ rest).head? = scan.advance c text.head? := by
        simp only [Scan.advance, Scan.opensComment_append other]
      have met : scan.isOperator operator c (text ++ rest).head? =
          scan.isOperator operator c text.head? := by
        simp only [Scan.isOperator, Scan.opensComment_append other]
      rw [List.cons_append, splitFrom, splitFrom, same, met, Scan.run]
      split
      · rename_i met
        obtain ⟨pieces, last, alone, joined⟩ := hypothesis scan []
        refine ⟨current.reverse :: pieces, last, congrArg _ alone, ?_⟩
        rw [joined, Scan.advance_of_isOperator joint met]
        rfl
      · exact hypothesis _ _

/-- What was read of a piece stands in front of the first one. -/
theorem splitFrom_current (operator : Char) (scan : Scan) (text : List Char) :
    ∃ first others, ∀ current,
      splitFrom operator scan current text = (current.reverse ++ first) :: others := by
  induction text generalizing scan with
  | nil => exact ⟨[], [], fun current => by simp [splitFrom]⟩
  | cons c text hypothesis =>
      simp only [splitFrom]
      split
      · exact ⟨[], splitFrom operator scan [] text, fun current => by simp⟩
      · obtain ⟨first, others, pieces⟩ := hypothesis (scan.advance c text.head?)
        exact ⟨c :: first, others, fun current => by simp [pieces]⟩

theorem splitTopLevel_append
    {text : List Char}
    (back : Scan.start.run text = Scan.start)
    (more : List Char) :
    splitTopLevel (text ++ (" | ".toList ++ more)) '|' =
      splitTopLevel text '|' ++ splitTopLevel more '|' := by
  have joint : isJoint '|' = true := rfl
  have other : (" | ".toList ++ more).head? ≠ some '*' := by simp
  obtain ⟨pieces, last, alone, joined⟩ := splitFrom_append joint other Scan.start [] text
  obtain ⟨first, others, read⟩ := splitFrom_current '|' Scan.start more
  have parted : splitFrom '|' Scan.start last.reverse (" | ".toList ++ more) =
      (last ++ [' ']) :: splitFrom '|' Scan.start [' '] more := by
    simp [splitFrom, Scan.start, Scan.isOperator, Scan.advance, Scan.opensComment,
      Scan.isOpening, Scan.isClosing]
  have blank : Text.isBlank ' ' = true := rfl
  unfold splitTopLevel
  rw [joined, alone, back, parted, read, read]
  simp [trim_append_blank blank, trim_cons_blank blank]

/-- What is joined falls into the members of the texts. -/
theorem splitTopLevel_join
    {texts : List (List Char)}
    (some : texts ≠ [])
    (back : ∀ text ∈ texts, Scan.start.run text = Scan.start) :
    splitTopLevel (" | ".toList.intercalate texts) '|' =
      texts.flatMap fun text => splitTopLevel text '|' := by
  induction texts with
  | nil => contradiction
  | cons text rest hypothesis =>
      obtain ⟨here, later⟩ := List.forall_mem_cons.mp back
      cases rest with
      | nil => simp
      | cons second rest =>
          rw [List.intercalate_cons_cons, List.append_assoc, splitTopLevel_append here,
            hypothesis (List.cons_ne_nil second rest) later]
          rfl

/-! ## Members of types -/

theorem splitFrom_of_length
    {scan : Scan}
    {current text : List Char}
    (single : (splitFrom operator scan current text).length = 1) :
    splitFrom operator scan current text = [current.reverse ++ text] := by
  induction text generalizing scan current with
  | nil => simp [splitFrom]
  | cons c text hypothesis =>
      rw [splitFrom] at single ⊢
      split at single
      · obtain ⟨first, others, pieces⟩ := splitFrom_current operator scan text
        simp [pieces] at single
      · rename_i other
        rw [if_neg other, hypothesis single]
        simp

/-- A text without an operator at depth zero is its only member. -/
theorem splitTopLevel_of_operatorCount
    (joint : isJoint operator = true)
    {text : List Char}
    (nested : Nested (tokens text))
    (none : operatorCount operator 0 (tokens text) = 0) :
    splitTopLevel text operator = [Text.trim text] := by
  have single := length_splitTopLevel joint text nested.isScannable
  rw [none] at single
  unfold splitTopLevel at single ⊢
  rw [List.length_map] at single
  rw [splitFrom_of_length single]
  rfl

/-- Where a character does not occur it is no operator. -/
theorem operatorCount_of_not_mem
    (joint : isJoint operator = true)
    {text : List Char}
    (nested : Nested (tokens text))
    (missing : operator ∉ text) :
    operatorCount operator 0 (tokens text) = 0 := by
  have counted : Scan.count operator ⟨Lexing.code.mode text.head?, 0⟩ text =
      operatorCount operator 0 (tokens text) :=
    count_eq_operatorCount joint rfl 0 text nested.isScannable
  rw [← counted]
  generalize Scan.mk (Lexing.code.mode text.head?) 0 = scan
  clear counted nested
  induction text generalizing scan with
  | nil => rfl
  | cons c rest hypothesis =>
      rw [List.mem_cons, not_or] at missing
      have other : (c == operator) = false := beq_eq_false_iff_ne.mpr (Ne.symm missing.1)
      simp [Scan.count, Scan.isOperator, other, hypothesis missing.2]

theorem operatorCount_intercalate
    {separator : Token}
    (neutral : separator.isNeutral = true)
    (other : separator ≠ .mark operator)
    {lists : List (List Token)}
    (each : ∀ list ∈ lists, Nested list ∧ operatorCount operator 0 list = 0) :
    operatorCount operator 0 ([separator].intercalate lists) = 0 := by
  induction lists with
  | nil => rfl
  | cons first rest hypothesis =>
      obtain ⟨⟨nested, none⟩, later⟩ := List.forall_mem_cons.mp each
      cases rest with
      | nil => rwa [List.intercalate_singleton]
      | cons second rest =>
          rw [List.intercalate_cons_cons, List.append_assoc, operatorCount_append, none,
            nested.brackets_eq, Int.zero_add, List.singleton_append, operatorCount,
            Nested.bracket_of_isNeutral neutral, Int.add_zero, hypothesis later]
          simp [other]

theorem operatorCount_grouped
    (joint : isJoint operator = true)
    {flag : Bool}
    {tokens : List Token}
    (nested : Nested tokens)
    (none : flag = false → operatorCount operator 0 tokens = 0) :
    operatorCount operator 0 (groupedTokens flag tokens) = 0 := by
  cases flag with
  | false => exact none rfl
  | true => exact nested.operatorCount_bracketed joint rfl rfl

theorem operatorCount_numeral
    (joint : isJoint operator = true)
    (negative : Bool)
    {text : String}
    (none : operatorCount operator 0 (tokens text.toList) = 0) :
    operatorCount operator 0 (Tree.numeral negative text).tokens = 0 := by
  rw [Tree.tokens]
  cases negative with
  | false => exact none
  | true =>
      have sign : operatorCount operator 0 [.mark '-'] = 0 := by
        have other : '-' ≠ operator := Ne.symm (isJoint_cases joint).2.2.2.2.2
        simp [operatorCount, other]
      have flat : brackets [.mark '-'] = 0 := rfl
      rw [if_pos rfl, operatorCount_append, sign, flat, Int.add_zero, none]

theorem operatorCount_literal (joint : isJoint operator = true) (value : Literal) :
    operatorCount operator 0 value.tree.tokens = 0 := by
  have word {text : List Char} (name : isWord text = true) :
      operatorCount operator 0 (tokens text) = 0 := by
    rw [(spells_word name).tokens_eq]
    simp [operatorCount]
  have decimal {text : List Char} (numeral : IsNumeral text) :
      operatorCount operator 0 (tokens (String.ofList text).toList) = 0 := by
    rw [String.toList_ofList, numeral.spells.tokens_eq]
    simp [operatorCount]
  cases value with
  | bool flag => cases flag <;> exact word rfl
  | int number => exact operatorCount_numeral joint _ (decimal (isNumeral_digits number.natAbs))
  | float number =>
      unfold Literal.tree Tree.ofFloat
      dsimp only
      cases Decimal.Reading.ofFloat number with
      | notANumber => exact operatorCount_numeral joint _ (word rfl)
      | infinite negative => exact operatorCount_numeral joint _ (word rfl)
      | finite negative magnitude =>
          exact operatorCount_numeral joint _
            (decimal (isNumeral_shortest Decimal.Layout.json magnitude))
  | text content => simp [Literal.tree, Tree.tokens, operatorCount]

/-- An operator between two or more lists with matched brackets stands at depth zero. -/
theorem operatorCount_intercalate_pos
    {first second : List Token}
    {rest : List (List Token)}
    (nested : Nested first) :
    0 < operatorCount operator 0 ([.mark operator].intercalate (first :: second :: rest)) := by
  rw [List.intercalate_cons_cons, List.append_assoc, operatorCount_append, nested.brackets_eq,
    Int.zero_add, List.singleton_append, operatorCount]
  simp

/-- Names and keys spell tokens with matched brackets, and no name holds an operator. -/
structure Regular (Name : String → Prop) (Key : MemberKey → Prop) : Prop where
  name : ∀ name, Name name → Spells name.toList (tokens name.toList) ∧ Nested (tokens name.toList)
  plain : ∀ name, Name name → ∀ operator, isJoint operator = true → operator ∉ name.toList
  key : ∀ key, Key key → Spells key.render.toList key.tokens ∧ Nested key.tokens

namespace TypeExpr

theorem isUnion_of_alternatives {type : TypeExpr} (flat : type.alternatives = [type]) :
    type.isUnion = false := by
  cases type with
  | union first second rest => simp [alternatives] at flat
  | _ => rfl

theorem isUnion_of_isCompound {type : TypeExpr} (simple : type.isCompound = false) :
    type.isUnion = false := by
  cases type with
  | union => contradiction
  | _ => rfl

section Sound

variable
    {Name : String → Prop}
    {Key : MemberKey → Prop}
    (regular : Regular Name Key)
    {type : TypeExpr}
    (sound : type.Sound Name Key)

include regular sound

theorem Sound.tokens_render (level : Nat) :
    tokens (type.render level).toList = type.tree.tokens :=
  (sound.spells_render (fun name named => (regular.name name named).1)
    (fun key kept => (regular.key key kept).1) level).tokens_eq

theorem Sound.nested_tree : Nested type.tree.tokens :=
  sound.nested (fun name named => (regular.name name named).2)
    fun key kept => (regular.key key kept).2

theorem Sound.passes_render (level : Nat) :
    Scan.start.Passes (type.render level).toList Scan.start := by
  apply passes_of_nested
  rw [sound.tokens_render regular]
  exact sound.nested_tree regular

/-- Only a union has a bar at depth zero, and only a union or an intersection has an
ampersand there. -/
theorem Sound.operatorCount_tree
    (joint : isJoint operator = true)
    (simple : type.isUnion = false)
    (apart : operator = '|' ∨ type.isCompound = false) :
    operatorCount operator 0 type.tree.tokens = 0 := by
  have cases_of_joint : operator = '|' ∨ operator = '&' := by simpa [isJoint] using joint
  induction sound with
  | keyword word => rcases cases_of_joint with rfl | rfl <;> cases word <;> decide
  | literal value => exact operatorCount_literal joint value
  | @reference name named =>
      exact operatorCount_of_not_mem joint (regular.name name named).2
        (regular.plain name named operator joint)
  | template => rcases cases_of_joint with rfl | rfl <;> rfl
  | negation => rcases cases_of_joint with rfl | rfl <;> decide
  | record value => rcases cases_of_joint with rfl | rfl <;> cases value <;> decide
  | @array item sound hypothesis =>
      rw [tree, Tree.tokens_array, operatorCount_append,
        ((sound.nested_tree regular).grouped _).brackets_eq]
      have empty : operatorCount operator (0 + 0) [.mark '[', .mark ']'] = 0 := by
        rcases cases_of_joint with rfl | rfl <;> decide
      rw [empty, Nat.add_zero]
      refine operatorCount_grouped joint (sound.nested_tree regular) ?_
      intro single
      rw [isCompound_tree] at single
      exact hypothesis (isUnion_of_isCompound single) (.inr single)
  | @tuple item sound length _ =>
      rw [tree, Tree.tokens_tuple]
      refine Nested.operatorCount_bracketed joint rfl rfl (.intercalate rfl ?_)
      intro list listed
      obtain ⟨other, member, rfl⟩ := List.mem_map.mp listed
      rw [List.eq_of_mem_replicate member]
      exact sound.nested_tree regular
  | object keys _ types _ =>
      rw [tree_object, Tree.tokens_object]
      refine Nested.operatorCount_bracketed joint rfl rfl (nested_fields ?_ ?_)
      · intro member listed
        exact (regular.key _ (keys member listed)).2
      · intro member listed
        exact (types member listed).nested_tree regular
  | union => contradiction
  | intersection _ each hypothesis =>
      -- An intersection is compound, so the operator is the bar.
      rcases apart with rfl | simple
      · rw [tree_intersection, Tree.tokens_intersection, List.map_map]
        refine operatorCount_intercalate rfl (by decide) ?_
        intro list listed
        obtain ⟨part, member, rfl⟩ := List.mem_map.mp listed
        have nested := (each part member).nested_tree regular
        refine ⟨nested.grouped _, operatorCount_grouped joint nested ?_⟩
        intro single
        rw [isUnion_tree] at single
        exact hypothesis part member single (.inl rfl)
      · contradiction

/-- The members of the text of a type are the texts of its alternatives. -/
theorem Sound.splitTopLevel_render (level : Nat) :
    splitTopLevel (type.render level).toList '|' =
      type.alternatives.map fun member => Text.trim (member.render level).toList := by
  have single {other : TypeExpr} (soundOther : other.Sound Name Key)
      (simple : other.isUnion = false) :
      splitTopLevel (other.render level).toList '|' = [Text.trim (other.render level).toList] := by
    apply splitTopLevel_of_operatorCount rfl
    · rw [soundOther.tokens_render regular]
      exact soundOther.nested_tree regular
    · rw [soundOther.tokens_render regular]
      exact soundOther.operatorCount_tree regular rfl simple (.inl rfl)
  have whole := sound
  cases sound with
  | @union first second rest flat each =>
      let texts := (first :: second :: rest).map fun member => (member.render level).toList
      have back : ∀ text ∈ texts, Scan.start.run text = Scan.start := by
        intro text listed
        obtain ⟨member, inMembers, rfl⟩ := List.mem_map.mp listed
        exact ((each member inMembers).passes_render regular level).ends
      have joined : splitTopLevel (" | ".toList.intercalate texts) '|' =
          texts.flatMap fun text => splitTopLevel text '|' :=
        splitTopLevel_join (List.cons_ne_nil _ _) back
      rw [List.flatMap_map] at joined
      rw [toList_render_union]
      refine joined.trans ?_
      rw [List.map_eq_flatMap]
      refine List.flatMap_congr ?_
      intro member inMembers
      exact single (each member inMembers) (isUnion_of_alternatives (flat member inMembers))
  | _ => exact single whole rfl

/-- A type has a bar at depth zero exactly if it is a union. -/
theorem Sound.operatorCount_bar_pos_iff :
    0 < operatorCount '|' 0 type.tree.tokens ↔ type.isUnion = true := by
  cases shape : type.isUnion with
  | false => simp [sound.operatorCount_tree regular rfl shape (.inl rfl)]
  | true =>
      cases sound with
      | @union first second rest _ each =>
          rw [tree_union, Tree.tokens_union, List.map_map]
          have nested := (each first List.mem_cons_self).nested_tree regular
          exact iff_of_true (operatorCount_intercalate_pos nested) rfl
      | _ => contradiction

/-- A type has an operator at depth zero exactly if it is a union or an intersection. -/
theorem Sound.operatorCount_pos_iff :
    (0 < operatorCount '|' 0 type.tree.tokens ∨ 0 < operatorCount '&' 0 type.tree.tokens) ↔
      type.isCompound = true := by
  cases shape : type.isCompound with
  | false =>
      have none {operator : Char} (joint : isJoint operator = true) :
          operatorCount operator 0 type.tree.tokens = 0 :=
        sound.operatorCount_tree regular joint (isUnion_of_isCompound shape) (.inr shape)
      simp [@none '|' rfl, @none '&' rfl]
  | true =>
      refine iff_of_true ?_ rfl
      cases sound with
      | union flat each =>
          have whole := Sound.union flat each
          exact .inl ((whole.operatorCount_bar_pos_iff regular).mpr rfl)
      | @intersection first second rest _ each =>
          rw [tree_intersection, Tree.tokens_intersection, List.map_map]
          have nested := (each first List.mem_cons_self).nested_tree regular
          exact .inr (operatorCount_intercalate_pos (nested.grouped _))
      | _ => contradiction

theorem Sound.one_lt_length_splitTopLevel_iff (joint : isJoint operator = true) (level : Nat) :
    1 < (splitTopLevel (type.render level).toList operator).length ↔
      0 < operatorCount operator 0 type.tree.tokens := by
  have spelled := sound.tokens_render regular level
  have scannable := (sound.nested_tree regular).isScannable
  rw [← spelled] at scannable
  rw [length_splitTopLevel joint _ scannable, spelled]
  omega

/-- The scanner puts a type in parentheses where the tree does: a bar at top level is found in
unions only, and one of the operators in unions and intersections only. -/
theorem Sound.parenthesize_render (level : Nat) :
    parenthesize (type.render level).toList ['|'] =
        (grouped type.isUnion (type.render level)).toList ∧
      parenthesize (type.render level).toList ['|', '&'] =
        (grouped type.isCompound (type.render level)).toList := by
  have bar : needsParentheses (type.render level).toList ['|'] = type.isUnion := by
    rw [Bool.eq_iff_iff, ← sound.operatorCount_bar_pos_iff regular,
      ← sound.one_lt_length_splitTopLevel_iff regular rfl level]
    simp [needsParentheses]
  have operators : needsParentheses (type.render level).toList ['|', '&'] = type.isCompound := by
    rw [Bool.eq_iff_iff, ← sound.operatorCount_pos_iff regular,
      ← sound.one_lt_length_splitTopLevel_iff regular rfl level,
      ← sound.one_lt_length_splitTopLevel_iff regular rfl level]
    simp [needsParentheses]
  have grouped_eq (flag : Bool) : (grouped flag (type.render level)).toList =
      if flag then '(' :: ((type.render level).toList ++ [')']) else (type.render level).toList := by
    cases flag <;> simp [grouped]
  rw [parenthesize, parenthesize, bar, operators, grouped_eq, grouped_eq]
  exact ⟨rfl, rfl⟩

/-- In parentheses where it needs them, a type is one member under both operators. -/
theorem Sound.length_parenthesize
    (level : Nat)
    {operator : Char}
    (listed : operator ∈ ['|', '&']) :
    (splitTopLevel (parenthesize (type.render level).toList ['|', '&']) operator).length = 1 := by
  have joint : isJoint operator = true := by
    rcases List.mem_pair.mp listed with rfl | rfl <;> rfl
  have tokens_eq := sound.tokens_render regular level
  have nested := sound.nested_tree regular
  have spelled := length_splitTopLevel joint (type.render level).toList
    (by rw [tokens_eq]; exact nested.isScannable)
  unfold parenthesize
  split
  · have spells := spells_grouped true (sound.spells_render
      (fun name named => (regular.name name named).1) (fun key kept => (regular.key key kept).1)
      level)
    have text : '(' :: ((type.render level).toList ++ [')']) =
        (grouped true (type.render level)).toList := by
      simp [grouped]
    have none : operatorCount operator 0 (groupedTokens true type.tree.tokens) = 0 :=
      nested.operatorCount_bracketed joint rfl rfl
    have scannable := (nested.grouped true).isScannable
    rw [← spells.tokens_eq] at none scannable
    rw [text, length_splitTopLevel joint _ scannable, none]
  · rename_i free
    have bound : ¬ 1 < (splitTopLevel (type.render level).toList operator).length := by
      intro several
      refine free (List.any_eq_true.mpr ⟨operator, listed, ?_⟩)
      exact decide_eq_true several
    omega

end Sound

/-! ## Adding null -/

/-- A character that is not blank survives trimming. -/
theorem mem_trim
    {text : List Char}
    {c : Char}
    (member : c ∈ text)
    (visible : Text.isBlank c = false) :
    c ∈ Text.trim text := by
  have kept {list : List Char} (listed : c ∈ list) : c ∈ list.dropWhile Text.isBlank := by
    rw [← List.takeWhile_append_dropWhile (p := Text.isBlank) (l := list)] at listed
    refine (List.mem_append.mp listed).resolve_left ?_
    intro dropped
    rw [List.mem_takeWhile_imp dropped] at visible
    contradiction
  unfold Text.trim Text.trimEnd
  rw [List.mem_reverse]
  exact kept (List.mem_reverse.mpr (kept member))

/-- A text with a visible character that is not in the word is not the word. -/
theorem trim_ne_null
    {text : List Char}
    {c : Char}
    (member : c ∈ text)
    (visible : Text.isBlank c = false)
    (foreign : c ∉ "null".toList) :
    Text.trim text ≠ "null".toList := by
  intro same
  have kept := mem_trim member visible
  rw [same] at kept
  exact foreign kept

theorem trim_numeral_ne_null
    (negative : Bool)
    {text : List Char}
    (numeral : IsNumeral text) :
    Text.trim ((if negative then "-" else "") ++ String.ofList text).toList ≠ "null".toList := by
  obtain ⟨digit, member, isDigit⟩ := numeral.exists_digit
  have name : isNameChar digit = true := by simp [isNameChar, Char.isAlphanum, isDigit]
  refine trim_ne_null (c := digit) ?_ (isBlank_of_isNameChar name) ?_
  · rw [String.toList_append, String.toList_ofList]
    exact List.mem_append_right _ member
  · intro letter
    simp only [String.reduceToList, List.mem_cons, List.not_mem_nil, or_false] at letter
    rcases letter with rfl | rfl | rfl | rfl <;> contradiction

theorem trim_literal_ne_null (value : Literal) :
    Text.trim value.render.toList ≠ "null".toList := by
  cases value with
  | bool flag => cases flag <;> decide
  | int number =>
      change Text.trim (toString number).toList ≠ _
      rw [toString_int]
      exact trim_numeral_ne_null _ (isNumeral_digits number.natAbs)
  | float number =>
      unfold Literal.render Decimal.Layout.text
      dsimp only
      cases Decimal.Reading.ofFloat number with
      | notANumber => decide
      | infinite negative => cases negative <;> decide
      | finite negative magnitude =>
          exact trim_numeral_ne_null negative (isNumeral_shortest Decimal.Layout.json magnitude)
  | text content =>
      have quote : '"' ∈ (Literal.text content).render.toList := by
        simp [Literal.render, Text.quoted, Text.quote]
      exact trim_ne_null quote rfl (by decide)

/-- A type is written as the word exactly if it is taken for it. -/
theorem trim_render_eq_null_iff (level : Nat) (type : TypeExpr) :
    Text.trim (type.render level).toList = "null".toList ↔ type.isNull = true := by
  have never {c : Char} (member : c ∈ (type.render level).toList)
      (visible : Text.isBlank c = false) (foreign : c ∉ "null".toList)
      (other : type.isNull = false) :
      Text.trim (type.render level).toList = "null".toList ↔ type.isNull = true := by
    rw [other]
    exact iff_of_false (trim_ne_null member visible foreign) Bool.false_ne_true
  cases type with
  | keyword word =>
      change Text.trim word.render.toList = "null".toList ↔ (keyword word).isNull = true
      cases word <;> decide
  | literal value => exact iff_of_false (trim_literal_ne_null value) Bool.false_ne_true
  | reference name => exact beq_iff_eq.symm
  | template => exact never (c := '$') (by simp [render]) rfl (by decide) rfl
  | negation => exact never (c := 'k') (by simp [render, negationText]) rfl (by decide) rfl
  | record value =>
      refine never (c := 'R') ?_ rfl (by decide) rfl
      rw [toList_render_record]
      exact List.mem_cons_self
  | array item =>
      refine never (c := '[') ?_ rfl (by decide) rfl
      rw [toList_render_array]
      exact List.mem_append_right _ List.mem_cons_self
  | tuple item length =>
      refine never (c := '[') ?_ rfl (by decide) rfl
      rw [toList_render_tuple]
      exact List.mem_cons_self
  | object members =>
      refine never (c := '{') ?_ rfl (by decide) rfl
      rw [toList_render_members]
      exact List.mem_cons_self
  | union first second rest =>
      refine never (c := '|') ?_ rfl (by decide) rfl
      rw [toList_render_union, List.map_cons, List.map_cons, List.intercalate_cons_cons]
      simp
  | intersection first second rest =>
      refine never (c := '&') ?_ rfl (by decide) rfl
      rw [toList_render_intersection, List.map_cons, List.map_cons, List.intercalate_cons_cons]
      simp

theorem alternatives_orNull {type : TypeExpr} (new : type.alternatives.any isNull = false) :
    type.orNull.alternatives = type.alternatives ++ [null] := by
  unfold orNull
  rw [new, if_neg Bool.false_ne_true]
  cases type with
  | union first second rest => simp [unionOf, alternatives, null]
  | _ => rfl

section Nullable

variable
    {Name : String → Prop}
    {Key : MemberKey → Prop}
    (regular : Regular Name Key)
    {type : TypeExpr}
    (sound : type.Sound Name Key)

include regular sound

theorem Sound.mem_splitTopLevel_render_iff (level : Nat) :
    "null".toList ∈ splitTopLevel (type.render level).toList '|' ↔
      type.alternatives.any isNull = true := by
  rw [sound.splitTopLevel_render regular, List.any_eq_true]
  simp only [List.mem_map, trim_render_eq_null_iff]

/-- A type that admits `null` has it as a member: it is added unless it is there. -/
theorem Sound.splitTopLevel_orNull (level : Nat) :
    splitTopLevel (type.orNull.render level).toList '|' =
      splitTopLevel (type.render level).toList '|' ++
        if "null".toList ∈ splitTopLevel (type.render level).toList '|' then []
        else ["null".toList] := by
  have known := sound.mem_splitTopLevel_render_iff regular level
  cases new : type.alternatives.any isNull with
  | true =>
      have same : type.orNull = type := by
        unfold TypeExpr.orNull
        rw [if_pos new]
      rw [if_pos (known.mpr new), same, List.append_nil]
  | false =>
      have word : Text.trim (null.render level).toList = "null".toList :=
        (trim_render_eq_null_iff level null).mpr rfl
      rw [new] at known
      rw [if_neg (fun listed => Bool.false_ne_true (known.mp listed)),
        sound.orNull.splitTopLevel_render regular, alternatives_orNull new,
        sound.splitTopLevel_render regular, List.map_append, List.map_singleton, word]

end Nullable

end TypeExpr

end TypeScript
end ApiTypings
