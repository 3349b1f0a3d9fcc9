import ApiTypings.Proofs.TypeScript.Token
import ApiTypings.TypeScript.TopLevel

/-!
# The scanner sees tokens

The scanner that looks for operators at top level agrees with the tokens of a text:
it is inside a string or a comment when they are read, its depth is the number of
brackets that are open, and it meets the operators that are tokens at depth zero.
A template is scanned as code, so only the one template that types have is let pass.
-/

namespace ApiTypings
namespace TypeScript

/-! ## Brackets among tokens -/

/-- How many brackets a token opens. -/
def Token.bracket : Token → Int
  | .mark c => if Scan.isOpening c then 1 else if Scan.isClosing c then -1 else 0
  | _ => 0

/-- How many brackets are open after tokens. -/
def brackets (tokens : List Token) : Int :=
  (tokens.map Token.bracket).sum

/-- How many operators stand at depth zero among tokens that start at a depth. -/
def operatorCount (operator : Char) (depth : Int) : List Token → Nat
  | [] => 0
  | token :: rest =>
      (if depth = 0 ∧ token = .mark operator then 1 else 0) +
        operatorCount operator (depth + token.bracket) rest

theorem brackets_append (first second : List Token) :
    brackets (first ++ second) = brackets first + brackets second := by
  simp [brackets]

theorem operatorCount_append (operator : Char) (depth : Int) (first second : List Token) :
    operatorCount operator depth (first ++ second) =
      operatorCount operator depth first +
        operatorCount operator (depth + brackets first) second := by
  induction first generalizing depth with
  | nil => simp [operatorCount, brackets]
  | cons token rest hypothesis =>
      have depths : depth + token.bracket + brackets rest =
          depth + brackets (token :: rest) := by
        simp only [brackets, List.map_cons, List.sum_cons]
        omega
      rw [List.cons_append, operatorCount, operatorCount, hypothesis, depths, Nat.add_assoc]

/-! ## One character -/

namespace Lexing

/-- Where the scanner stands in front of a character, given what is being read. -/
def mode (next : Option Char) : Lexing → Mode
  | .slash => if next = some '*' then .opening else .code
  | .string _ => .string
  | .escaped _ => .escaped
  | .comment star => .comment star
  | .code | .word _ | .number _ | .template _ => .code

/-- Whether a template is being read. -/
def isTemplate : Lexing → Bool
  | .template _ => true
  | _ => false

end Lexing

/-- Whether the scanner reacts to a character in code. -/
def isSignal (c : Char) : Bool :=
  c == '"' || c == '/' || Scan.isOpening c || Scan.isClosing c

theorem Scan.advance_code
    {c : Char}
    (still : isSignal c = false)
    (depth : Int)
    (next : Option Char) :
    Scan.advance ⟨.code, depth⟩ c next = ⟨.code, depth⟩ := by
  simp only [isSignal, Bool.or_eq_false_iff] at still
  obtain ⟨⟨⟨noQuote, noSlash⟩, noOpening⟩, noClosing⟩ := still
  simp [Scan.advance, Scan.opensComment, noQuote, noSlash, noOpening, noClosing]

/-- A bracket is a token of its own. -/
theorem enter_bracket {c : Char} (bracket : (Scan.isOpening c || Scan.isClosing c) = true) :
    Lexing.enter c = (.code, [.mark c]) := by
  simp only [Scan.isOpening, Scan.isClosing, Bool.or_eq_true, beq_iff_eq] at bracket
  rcases bracket with (((rfl | rfl) | rfl) | rfl) | (((rfl | rfl) | rfl) | rfl)
  all_goals rfl

/-- The scanner follows the start of a token. -/
theorem advance_enter
    {c : Char}
    (noTick : c ≠ '\x60')
    (depth : Int)
    (next : Option Char) :
    Scan.advance ⟨.code, depth⟩ c next =
      ⟨(Lexing.enter c).1.mode next, depth + brackets (Lexing.enter c).2⟩ := by
  by_cases quote : c = '"'
  · have entered : Lexing.enter '"' = (.string [], []) := rfl
    subst quote
    simp [entered, Scan.advance, Lexing.mode, brackets]
  by_cases slash : c = '/'
  · have entered : Lexing.enter '/' = (.slash, []) := rfl
    subst slash
    by_cases star : next = some '*' <;>
      simp [entered, star, Scan.advance, Scan.opensComment, Scan.isOpening, Scan.isClosing,
        Lexing.mode, brackets]
  cases bracket : Scan.isOpening c || Scan.isClosing c with
  | true =>
      rw [enter_bracket bracket]
      simp only [Bool.or_eq_true] at bracket
      by_cases opening : Scan.isOpening c = true
      · simp [Scan.advance, Scan.opensComment, quote, slash, opening, Lexing.mode, brackets,
          Token.bracket]
      · have closing : Scan.isClosing c = true := bracket.resolve_left opening
        simp [Scan.advance, Scan.opensComment, quote, slash, opening, closing, Lexing.mode,
          brackets, Token.bracket]
        omega
  | false =>
      have still : isSignal c = false := by
        simp only [Bool.or_eq_false_iff] at bracket
        simp [isSignal, quote, slash, bracket]
      rw [Scan.advance_code still]
      simp only [Bool.or_eq_false_iff] at bracket
      unfold Lexing.enter
      simp only [beq_iff_eq, quote, slash, noTick, if_false]
      split
      · simp [Lexing.mode, brackets]
      · split
        · simp [Lexing.mode, brackets]
        · split
          · simp [Lexing.mode, brackets]
          · simp [Lexing.mode, brackets, Token.bracket, bracket]

/-- The operators that join types. -/
def isJoint (c : Char) : Bool :=
  c == '|' || c == '&'

variable {operator : Char}

/-- An operator is a token of its own, and no signal. -/
theorem isJoint_cases (joint : isJoint operator = true) :
    Lexing.enter operator = (.code, [.mark operator]) ∧ isSignal operator = false ∧
      isNameChar operator = false ∧ operator ≠ '.' ∧ operator ≠ '+' ∧ operator ≠ '-' := by
  simp only [isJoint, Bool.or_eq_true, beq_iff_eq] at joint
  rcases joint with rfl | rfl
  all_goals exact ⟨rfl, rfl, rfl, by decide, by decide, by decide⟩

theorem Scan.isOperator_code
    (joint : isJoint operator = true)
    (depth : Int)
    (c : Char)
    (next : Option Char) :
    Scan.isOperator ⟨.code, depth⟩ operator c next = decide (depth = 0 ∧ c = operator) := by
  by_cases same : c = operator
  · obtain ⟨_, still, _⟩ := isJoint_cases joint
    simp only [isSignal, Bool.or_eq_false_iff] at still
    simp only [Scan.isOperator, Scan.opensComment, same, bne, still, beq_self_eq_true,
      Bool.true_and, Bool.not_false, Bool.false_and, Bool.and_true, and_true]
    rfl
  · simp [Scan.isOperator, same]

/-- Tokens that start with a character hold an operator if the character is one. -/
theorem operatorCount_enter (joint : isJoint operator = true) (depth : Int) (c : Char) :
    operatorCount operator depth (Lexing.enter c).2 =
      if depth = 0 ∧ c = operator then 1 else 0 := by
  by_cases same : c = operator
  · rw [same, (isJoint_cases joint).1]
    simp [operatorCount]
  · unfold Lexing.enter
    split
    · simp [operatorCount, same]
    · split
      · simp [operatorCount, same]
      · split
        · simp [operatorCount, same]
        · split
          · simp [operatorCount, same]
          · split
            · simp [operatorCount, same]
            · split <;> simp [operatorCount, same]

/-- Characters that go on with a word or a number are no signals. -/
theorem isSignal_of_isNumberChar
    {read : List Char}
    {c : Char}
    (goesOn : Lexing.isNumberChar read c = true) :
    isSignal c = false ∧ isJoint c = false := by
  have special (other : Char) (stops : Lexing.isNumberChar read other = false) : c ≠ other := by
    rintro rfl
    rw [stops] at goesOn
    contradiction
  simp only [isSignal, isJoint, Scan.isOpening, Scan.isClosing, Bool.or_eq_false_iff,
    beq_eq_false_iff_ne]
  refine ⟨⟨⟨⟨?_, ?_⟩, ⟨⟨?_, ?_⟩, ?_⟩, ?_⟩, ⟨⟨?_, ?_⟩, ?_⟩, ?_⟩, ?_, ?_⟩
  all_goals exact special _ rfl

/-- What the scanner does at a character, given what is being read: it moves on with
the tokens, and it meets an operator if one is read. -/
structure Follows
    (operator : Char)
    (depth : Int)
    (c : Char)
    (next : Option Char)
    (mode : Mode)
    (read : Lexing × List Token) : Prop where
  advance :
    Scan.advance ⟨mode, depth⟩ c next = ⟨read.1.mode next, depth + brackets read.2⟩
  operators :
    (if Scan.isOperator ⟨mode, depth⟩ operator c next then 1 else 0) =
      operatorCount operator depth read.2

namespace Lexing

variable (depth : Int) (next : Option Char) {c : Char}

/-- The scanner follows where a token goes on. -/
theorem follows_more
    (joint : isJoint operator = true)
    {lexing : Lexing}
    (inCode : lexing.mode next = .code)
    (still : isSignal c = false)
    (other : isJoint c = false) :
    Follows operator depth c next .code (lexing, []) := by
  have noOperator : c ≠ operator := by
    rintro rfl
    rw [joint] at other
    contradiction
  refine ⟨?_, ?_⟩
  · simp [Scan.advance_code still, inCode, brackets]
  · simp [Scan.isOperator_code joint, noOperator, operatorCount]

/-- What ends with a text opens no bracket and is no operator. -/
theorem operatorCount_finish (joint : isJoint operator = true) (lexing : Lexing) :
    brackets lexing.finish = 0 ∧ operatorCount operator depth lexing.finish = 0 := by
  cases lexing with
  | slash =>
      have other : '/' ≠ operator := by
        rintro rfl
        contradiction
      simp [finish, brackets, Token.bracket, operatorCount, other, Scan.isOpening, Scan.isClosing]
  | _ => simp [finish, brackets, Token.bracket, operatorCount]

/-- The scanner follows where a token ends. -/
theorem follows_leave
    (joint : isJoint operator = true)
    (lexing : Lexing)
    (noTick : c ≠ '\x60') :
    Follows operator depth c next .code (lexing.leave c) := by
  obtain ⟨flat, none⟩ := operatorCount_finish depth joint lexing
  refine ⟨?_, ?_⟩
  · rw [advance_enter noTick, leave, brackets_append, flat, Int.zero_add]
  · rw [Scan.isOperator_code joint, leave, operatorCount_append, flat, none, Int.add_zero,
      operatorCount_enter joint]
    simp

theorem isTemplate_enter (c : Char) : (enter c).1.isTemplate = decide (c = '\x60') := by
  by_cases tick : c = '\x60'
  · subst tick
    decide
  · unfold enter
    simp only [beq_iff_eq, tick, if_false, decide_false]
    split
    · rfl
    · split
      · rfl
      · split
        · rfl
        · split
          · rfl
          · split <;> rfl

theorem ne_tick_of_enter (after : (enter c).1.isTemplate = false) : c ≠ '\x60' := by
  rw [isTemplate_enter] at after
  exact of_decide_eq_false after

/-- The scanner follows the tokens at every character, unless a template is read. -/
theorem follows_advance
    (joint : isJoint operator = true)
    {lexing : Lexing}
    (before : lexing.isTemplate = false)
    (after : (lexing.advance c).1.isTemplate = false) :
    Follows operator depth c next (lexing.mode (some c)) (lexing.advance c) := by
  cases lexing with
  | code =>
      exact follows_leave depth next joint .code (ne_tick_of_enter after)
  | word read =>
      by_cases goesOn : isNameChar c = true
      · have numeral : isNumberChar [] c = true := by simp [isNumberChar, goesOn]
        obtain ⟨still, other⟩ := isSignal_of_isNumberChar numeral
        simp only [Lexing.advance, goesOn, if_true]
        exact follows_more depth next joint rfl still other
      · simp only [Lexing.advance, goesOn, if_false, Bool.false_eq_true] at after ⊢
        exact follows_leave depth next joint _ (ne_tick_of_enter after)
  | number read =>
      by_cases goesOn : isNumberChar read c = true
      · obtain ⟨still, other⟩ := isSignal_of_isNumberChar goesOn
        simp only [Lexing.advance, goesOn, if_true]
        exact follows_more depth next joint rfl still other
      · simp only [Lexing.advance, goesOn, if_false, Bool.false_eq_true] at after ⊢
        exact follows_leave depth next joint _ (ne_tick_of_enter after)
  | slash =>
      by_cases star : c = '*'
      · subst star
        refine ⟨?_, ?_⟩
        · simp [Lexing.advance, mode, Scan.advance, brackets]
        · simp [Lexing.advance, mode, Scan.isOperator, operatorCount]
      · simp only [Lexing.advance, beq_iff_eq, star, if_false] at after ⊢
        simp only [mode, Option.some.injEq, star, if_false]
        exact follows_leave depth next joint .slash (ne_tick_of_enter after)
  | string read =>
      by_cases escape : c = '\\'
      · subst escape
        refine ⟨?_, ?_⟩
        · simp [Lexing.advance, mode, Scan.advance, brackets]
        · simp [Lexing.advance, mode, Scan.isOperator, operatorCount]
      · by_cases quote : c = '"'
        · subst quote
          refine ⟨?_, ?_⟩
          · simp [Lexing.advance, mode, Scan.advance, brackets, Token.bracket]
          · simp [Lexing.advance, mode, Scan.isOperator, operatorCount]
        · refine ⟨?_, ?_⟩
          · simp [Lexing.advance, mode, Scan.advance, escape, quote, brackets]
          · simp [Lexing.advance, mode, Scan.isOperator, escape, quote, operatorCount]
  | escaped read =>
      refine ⟨?_, ?_⟩
      · simp [Lexing.advance, Scan.advance, mode, brackets]
      · simp [Lexing.advance, Scan.isOperator, mode, operatorCount]
  | comment star =>
      cases closes : c == '/' && star with
      | true =>
          refine ⟨?_, ?_⟩
          · simp [Lexing.advance, mode, Scan.advance, closes, Bool.and_comm star, brackets]
          · simp [Lexing.advance, mode, Scan.isOperator, closes, Bool.and_comm star, operatorCount]
      | false =>
          refine ⟨?_, ?_⟩
          · simp [Lexing.advance, mode, Scan.advance, closes, Bool.and_comm star, brackets]
          · simp [Lexing.advance, mode, Scan.isOperator, closes, Bool.and_comm star, operatorCount]
  | template read => contradiction

/-- A template starts at a tick in code. -/
theorem advance_template
    {lexing : Lexing}
    (before : lexing.isTemplate = false)
    (after : (lexing.advance c).1.isTemplate = true) :
    c = '\x60' ∧ lexing.mode (some c) = .code ∧
      lexing.advance c = (.template [], lexing.finish) := by
  have entered (starts : (enter c).1.isTemplate = true) : c = '\x60' := by
    rw [isTemplate_enter] at starts
    exact of_decide_eq_true starts
  cases lexing with
  | code =>
      cases entered after
      exact ⟨rfl, rfl, rfl⟩
  | word read =>
      simp only [Lexing.advance] at after
      split at after
      · contradiction
      · cases entered after
        exact ⟨rfl, rfl, rfl⟩
  | number read =>
      simp only [Lexing.advance] at after
      split at after
      · contradiction
      · cases entered after
        exact ⟨rfl, rfl, rfl⟩
  | slash =>
      simp only [Lexing.advance] at after
      split at after
      · contradiction
      · cases entered after
        exact ⟨rfl, rfl, rfl⟩
  | string read =>
      simp only [Lexing.advance] at after
      split at after
      · contradiction
      · split at after <;> contradiction
  | escaped read => contradiction
  | comment star =>
      simp only [Lexing.advance] at after
      split at after <;> contradiction
  | template read => contradiction

/-- A template ends at the next tick, or with the text. -/
theorem lex_template_cases (read text : List Char) :
    (∃ raw rest, text = raw ++ '\x60' :: rest ∧
      lex (.template read) text = .template (read.reverse ++ raw) :: tokens rest) ∨
      .unfinished ∈ lex (.template read) text := by
  induction text generalizing read with
  | nil => exact .inr (by simp [finish])
  | cons c text hypothesis =>
      by_cases tick : c = '\x60'
      · subst tick
        exact .inl ⟨[], text, rfl, by simp [advance, tokens]⟩
      · have goesOn : lex (.template read) (c :: text) = lex (.template (c :: read)) text := by
          simp [advance, tick]
        rw [goesOn]
        rcases hypothesis (c :: read) with ⟨raw, rest, rfl, tokens⟩ | open'
        · exact .inl ⟨c :: raw, rest, rfl, by simp [tokens]⟩
        · exact .inr open'

end Lexing

/-! ## Whole texts -/

/-- How many operators at top level the scanner meets in a text. -/
def Scan.count (operator : Char) (scan : Scan) : List Char → Nat
  | [] => 0
  | c :: rest =>
      (if scan.isOperator operator c rest.head? then 1 else 0) +
        Scan.count operator (scan.advance c rest.head?) rest

/-- The scanner does not move at an operator. -/
theorem Scan.advance_of_isOperator
    (joint : isJoint operator = true)
    {scan : Scan}
    {c : Char}
    {next : Option Char}
    (met : scan.isOperator operator c next = true) :
    scan.advance c next = scan := by
  obtain ⟨mode, depth⟩ := scan
  have inCode : mode = .code := by
    simp only [Scan.isOperator, Bool.and_eq_true, beq_iff_eq] at met
    exact met.1.1.1.1.1.1
  subst inCode
  rw [Scan.isOperator_code joint, decide_eq_true_eq] at met
  rw [met.2, Scan.advance_code (isJoint_cases joint).2.1]

/-- There is one piece more than there are operators. -/
theorem length_splitFrom
    (joint : isJoint operator = true)
    (scan : Scan)
    (current text : List Char) :
    (splitFrom operator scan current text).length = 1 + scan.count operator text := by
  induction text generalizing scan current with
  | nil => rfl
  | cons c rest hypothesis =>
      unfold splitFrom Scan.count
      split
      · rename_i met
        rw [Scan.advance_of_isOperator joint met, List.length_cons, hypothesis]
        omega
      · rw [hypothesis]
        omega

/-- Whether the scanner can pass a token: the only template is that of any text. -/
def Token.IsScannable : Token → Prop
  | .template raw => raw = "$\x7bstring\x7d".toList
  | .unfinished => False
  | _ => True

/-- The only template that can be scanned is that of any text, and it ends. -/
theorem Lexing.exists_behind_template
    {rest : List Char}
    (scannable : ∀ token ∈ Lexing.lex (.template []) rest, token.IsScannable) :
    ∃ behind, rest = "$\x7bstring\x7d`".toList ++ behind ∧
      Lexing.lex (.template []) rest = .template "$\x7bstring\x7d".toList :: tokens behind := by
  rcases Lexing.lex_template_cases [] rest with ⟨raw, behind, rfl, whole⟩ | unfinished
  · have known : raw = "$\x7bstring\x7d".toList := scannable (.template raw) (by simp [whole])
    subst known
    exact ⟨behind, rfl, whole⟩
  · exact (scannable .unfinished unfinished).elim

/-- The scanner passes the template of any text. -/
theorem count_template
    (joint : isJoint operator = true)
    (depth : Int)
    (rest : List Char) :
    Scan.count operator ⟨.code, depth⟩ ("`$\x7bstring\x7d`".toList ++ rest) =
      Scan.count operator ⟨.code, depth⟩ rest := by
  simp only [isJoint, Bool.or_eq_true, beq_iff_eq] at joint
  rcases joint with rfl | rfl
  all_goals
    simp [Scan.count, Scan.isOperator, Scan.advance, Scan.opensComment, Scan.isOpening,
      Scan.isClosing]

/-- The scanner meets the operators that are tokens at depth zero. -/
theorem count_eq_operatorCount
    (joint : isJoint operator = true)
    {lexing : Lexing}
    (before : lexing.isTemplate = false)
    (depth : Int)
    (text : List Char)
    (scannable : ∀ token ∈ lexing.lex text, token.IsScannable) :
    Scan.count operator ⟨lexing.mode text.head?, depth⟩ text =
      operatorCount operator depth (lexing.lex text) := by
  match text with
  | [] => exact (lexing.operatorCount_finish depth joint).2.symm
  | c :: rest =>
      rw [Lexing.lex_cons] at scannable ⊢
      rw [operatorCount_append]
      cases after : (lexing.advance c).1.isTemplate with
      | false =>
          obtain ⟨advance, operators⟩ := lexing.follows_advance depth rest.head? joint before after
          rw [Scan.count, List.head?_cons, operators, advance]
          congr 1
          refine count_eq_operatorCount joint after _ rest ?_
          intro token member
          exact scannable token (List.mem_append_right _ member)
      | true =>
          obtain ⟨rfl, inCode, opened⟩ := Lexing.advance_template before after
          have finished := lexing.operatorCount_finish depth joint
          rw [opened] at scannable ⊢
          obtain ⟨behind, rfl, whole⟩ := Lexing.exists_behind_template fun token member =>
            scannable token (List.mem_append_right _ member)
          have others : Scan.count operator ⟨Lexing.code.mode behind.head?, depth⟩ behind =
              operatorCount operator depth (Lexing.code.lex behind) := by
            refine count_eq_operatorCount joint rfl depth behind ?_
            intro token member
            refine scannable token (List.mem_append_right _ ?_)
            rw [whole]
            exact List.mem_cons_of_mem _ member
          rw [List.head?_cons, inCode, whole, finished.1, finished.2, Int.add_zero, Nat.zero_add]
          calc
            _ = Scan.count operator ⟨.code, depth⟩ behind := count_template joint depth behind
            _ = operatorCount operator depth (Lexing.code.lex behind) := others
            _ = _ := by simp [operatorCount, Token.bracket, tokens]
termination_by text.length

/-- A text is split at the operators that are tokens at depth zero. -/
theorem length_splitTopLevel
    (joint : isJoint operator = true)
    (text : List Char)
    (scannable : ∀ token ∈ tokens text, token.IsScannable) :
    (splitTopLevel text operator).length = 1 + operatorCount operator 0 (tokens text) := by
  have counted : Scan.count operator ⟨Lexing.code.mode text.head?, 0⟩ text =
      operatorCount operator 0 (tokens text) :=
    count_eq_operatorCount joint rfl 0 text scannable
  unfold splitTopLevel
  rw [List.length_map, length_splitFrom joint, ← counted]
  rfl

end TypeScript
end ApiTypings
