import ApiTypings.Proofs.Json.Unquote
import ApiTypings.Text.Blank
import ApiTypings.TypeScript.Identifier

/-!
# Tokens

The words, numbers, strings and marks of a text. White space and comments are no
tokens. A text spells tokens if it contributes exactly these to every text in
which it is followed by a delimiter, so that the tokens of a text that is put
together are those of its pieces.
-/

namespace ApiTypings
namespace TypeScript

/-- A token. Of a string and of a template it holds what stands between the
quotes, as it is written there. -/
inductive Token
  | word (text : String)
  | number (text : String)
  | string (raw : List Char)
  | template (raw : List Char)
  | mark (c : Char)
  /-- A string, a template or a comment that does not end. -/
  | unfinished
  deriving DecidableEq, Repr

/-- What is being read, with its characters so far in reverse. In a comment,
`star` tells whether a slash would end it. -/
inductive Lexing
  | code
  | word (read : List Char)
  | number (read : List Char)
  | slash
  | string (read : List Char)
  | escaped (read : List Char)
  | comment (star : Bool)
  | template (read : List Char)
  deriving DecidableEq, Repr

namespace Lexing

/-- The token that ends with the text. -/
def finish : Lexing → List Token
  | .code => []
  | .word read => [.word (String.ofList read.reverse)]
  | .number read => [.number (String.ofList read.reverse)]
  | .slash => [.mark '/']
  | .string _ | .escaped _ | .comment _ | .template _ => [.unfinished]

/-- Start reading at a character; a mark is a token at once. -/
def enter (c : Char) : Lexing × List Token :=
  if Text.isWhiteSpace c then (.code, [])
  else if c.isDigit then (.number [c], [])
  else if isNameStart c then (.word [c], [])
  else if c == '/' then (.slash, [])
  else if c == '"' then (.string [], [])
  else if c == '\x60' then (.template [], [])
  else (.code, [.mark c])

/-- End a token in front of a character. -/
def leave (lexing : Lexing) (c : Char) : Lexing × List Token :=
  ((enter c).1, lexing.finish ++ (enter c).2)

/-- Whether a character goes on with a number; a sign does so after the mark of an
exponent. -/
def isNumberChar (read : List Char) (c : Char) : Bool :=
  isNameChar c || c == '.' ||
    ((c == '+' || c == '-') && (read.head? == some 'e' || read.head? == some 'E'))

/-- Read one character. -/
def advance : Lexing → Char → Lexing × List Token
  | .code, c => enter c
  | .word read, c => if isNameChar c then (.word (c :: read), []) else leave (.word read) c
  | .number read, c =>
      if isNumberChar read c then (.number (c :: read), []) else leave (.number read) c
  | .slash, c => if c == '*' then (.comment false, []) else leave .slash c
  | .string read, c =>
      if c == '\\' then (.escaped (c :: read), [])
      else if c == '"' then (.code, [.string read.reverse])
      else (.string (c :: read), [])
  | .escaped read, c => (.string (c :: read), [])
  | .comment star, c => if star && c == '/' then (.code, []) else (.comment (c == '*'), [])
  | .template read, c =>
      if c == '\x60' then (.code, [.template read.reverse]) else (.template (c :: read), [])

/-- The tokens of the rest of a text. -/
def lex (lexing : Lexing) : List Char → List Token
  | [] => lexing.finish
  | c :: rest => (lexing.advance c).2 ++ lex (lexing.advance c).1 rest

@[simp] theorem lex_nil (lexing : Lexing) : lexing.lex [] = lexing.finish := rfl

@[simp] theorem lex_cons (lexing : Lexing) (c : Char) (rest : List Char) :
    lexing.lex (c :: rest) = (lexing.advance c).2 ++ (lexing.advance c).1.lex rest := rfl

end Lexing

/-- The tokens of a text. -/
def tokens (text : List Char) : List Token :=
  Lexing.code.lex text

example :
    tokens "(\"a|\\\"\" /* | */ | -1.5e+3)[]".toList =
      [.mark '(', .string "a|\\\"".toList, .mark '|', .mark '-', .number "1.5e+3", .mark ')',
        .mark '[', .mark ']'] := by
  decide

/-! ## Texts that spell tokens -/

/-- Whether no word and no number can go on with a character. -/
def isDelimiter (c : Char) : Bool :=
  !isNameChar c && c != '.' && c != '+' && c != '-'

/-- Whether a text is empty or starts with a delimiter. -/
def delimits : List Char → Bool
  | [] => true
  | c :: _ => isDelimiter c

theorem delimits_append
    {first second : List Char}
    (left : delimits first = true)
    (right : delimits second = true) :
    delimits (first ++ second) = true := by
  cases first with
  | nil => exact right
  | cons c rest => exact left

/-- A text is read as tokens wherever it stands in front of a delimiter. -/
def Spells (text : List Char) (spelled : List Token) : Prop :=
  ∀ rest, delimits rest = true → tokens (text ++ rest) = spelled ++ tokens rest

/-- A text is read as tokens wherever it stands. -/
def Stands (text : List Char) (spelled : List Token) : Prop :=
  ∀ rest, tokens (text ++ rest) = spelled ++ tokens rest

variable {first second : List Char} {spelled more : List Token}

theorem Stands.spells (stands : Stands first spelled) : Spells first spelled :=
  fun rest _ => stands rest

theorem stands_nil : Stands [] [] :=
  fun _ => rfl

namespace Stands

theorem append_spells (left : Stands first spelled) (right : Spells second more) :
    Spells (first ++ second) (spelled ++ more) := by
  intro rest delimited
  rw [List.append_assoc, left, right rest delimited, List.append_assoc]

theorem append (left : Stands first spelled) (right : Stands second more) :
    Stands (first ++ second) (spelled ++ more) := by
  intro rest
  rw [List.append_assoc, left, right, List.append_assoc]

/-- Several texts in a row. -/
theorem flatMap
    {α : Type}
    {items : List α}
    {text : α → List Char}
    {spelled : α → List Token}
    (each : ∀ item ∈ items, Stands (text item) (spelled item)) :
    Stands (items.flatMap text) (items.flatMap spelled) := by
  induction items with
  | nil => exact stands_nil
  | cons item rest hypothesis =>
      rw [List.flatMap_cons, List.flatMap_cons]
      refine (each item List.mem_cons_self).append (hypothesis ?_)
      intro other member
      exact each other (List.mem_cons_of_mem item member)

end Stands

namespace Spells

theorem append
    (left : Spells first spelled)
    (between : delimits second = true)
    (right : Spells second more) :
    Spells (first ++ second) (spelled ++ more) := by
  intro rest delimited
  rw [List.append_assoc, left _ (delimits_append between delimited), right rest delimited,
    List.append_assoc]

theorem append_stands
    {c : Char}
    (left : Spells first spelled)
    (between : isDelimiter c = true)
    (right : Stands (c :: second) more) :
    Stands (first ++ c :: second) (spelled ++ more) := by
  intro rest
  rw [List.append_assoc, left _ (by exact between), right, List.append_assoc]

/-- Texts with a separator between them. -/
theorem intercalate
    {α : Type}
    {items : List α}
    {text : α → List Char}
    {spelled : α → List Token}
    {c : Char}
    {separator : List Char}
    {between : List Token}
    (apart : isDelimiter c = true)
    (separates : Stands (c :: separator) between)
    (each : ∀ item ∈ items, Spells (text item) (spelled item)) :
    Spells ((c :: separator).intercalate (items.map text))
      (between.intercalate (items.map spelled)) := by
  induction items with
  | nil => exact stands_nil.spells
  | cons item rest hypothesis =>
      have here := each item List.mem_cons_self
      have there := hypothesis fun other member => each other (List.mem_cons_of_mem item member)
      cases rest with
      | nil =>
          simp only [List.map_cons, List.map_nil, List.intercalate_singleton]
          exact here
      | cons next rest =>
          simp only [List.map_cons, List.intercalate_cons_cons] at there ⊢
          rw [List.append_assoc, List.append_assoc]
          exact here.append apart (separates.append_spells there)

/-- The tokens of a text that spells tokens. -/
theorem tokens_eq (spells : Spells first spelled) : tokens first = spelled := by
  have alone := spells [] rfl
  rw [List.append_nil] at alone
  rw [alone]
  exact List.append_nil spelled

end Spells

/-! ## Words and numbers -/

/-- Whether a character opens no string, template or comment. -/
def isPlain (c : Char) : Bool :=
  c != '/' && c != '"' && c != '\x60'

namespace Lexing

/-- Whether a delimiter ends what is being read. -/
def IsResting : Lexing → Prop
  | .code | .word _ | .number _ => True
  | _ => False

/-- In front of a delimiter a word or a number is complete. -/
theorem IsResting.lex_delimited
    {lexing : Lexing}
    (resting : lexing.IsResting)
    {rest : List Char}
    (delimited : delimits rest = true) :
    lexing.lex rest = lexing.finish ++ tokens rest := by
  cases rest with
  | nil => exact (List.append_nil _).symm
  | cons c rest =>
      simp only [delimits, isDelimiter, Bool.and_eq_true, Bool.not_eq_true', bne_iff_ne,
        ne_eq] at delimited
      obtain ⟨⟨⟨noName, noPoint⟩, noPlus⟩, noMinus⟩ := delimited
      cases lexing with
      | code => rfl
      | word read => simp [tokens, advance, leave, noName]
      | number read => simp [tokens, advance, leave, isNumberChar, noName, noPoint, noPlus, noMinus]
      | _ => exact resting.elim

theorem isResting_enter {c : Char} (plain : isPlain c = true) : (enter c).1.IsResting := by
  simp only [isPlain, Bool.and_eq_true, bne_iff_ne, ne_eq] at plain
  obtain ⟨⟨noSlash, noQuote⟩, noTick⟩ := plain
  unfold enter
  simp only [beq_iff_eq, noSlash, noQuote, noTick, if_false]
  split
  · trivial
  · split
    · trivial
    · split <;> trivial

theorem IsResting.advance
    {lexing : Lexing}
    (resting : lexing.IsResting)
    {c : Char}
    (plain : isPlain c = true) :
    (lexing.advance c).1.IsResting := by
  cases lexing with
  | code => exact isResting_enter plain
  | word read =>
      simp only [Lexing.advance]
      split
      · trivial
      · exact isResting_enter plain
  | number read =>
      simp only [Lexing.advance]
      split
      · trivial
      · exact isResting_enter plain
  | _ => exact resting.elim

/-- A plain text and what follows it after a delimiter are read apart. -/
theorem IsResting.lex_append
    {lexing : Lexing}
    (resting : lexing.IsResting)
    {text rest : List Char}
    (plain : text.all isPlain = true)
    (delimited : delimits rest = true) :
    lexing.lex (text ++ rest) = lexing.lex text ++ tokens rest := by
  induction text generalizing lexing with
  | nil => exact resting.lex_delimited delimited
  | cons c text hypothesis =>
      simp only [List.all_cons, Bool.and_eq_true] at plain
      simp only [List.cons_append, lex_cons, List.append_assoc]
      rw [hypothesis (resting.advance plain.1) plain.2]

/-- A word goes on as long as there are name characters. -/
theorem lex_word
    {read text : List Char}
    (names : text.all isNameChar = true) :
    lex (.word read) text = [.word (String.ofList (read.reverse ++ text))] := by
  induction text generalizing read with
  | nil => simp [finish]
  | cons c text hypothesis =>
      simp only [List.all_cons, Bool.and_eq_true] at names
      simp [advance, names.1, hypothesis names.2]

end Lexing

/-- A text without strings, templates and comments spells its tokens. -/
theorem spells_plain {text : List Char} (plain : text.all isPlain = true) :
    Spells text (tokens text) := by
  intro rest delimited
  have resting : Lexing.code.IsResting := trivial
  exact resting.lex_append plain delimited

/-! ## Words -/

theorem isNameChar_of_isNameStart {c : Char} (start : isNameStart c = true) :
    isNameChar c = true := by
  simp only [isNameChar, isNameStart, Char.isAlphanum, Bool.or_eq_true] at start ⊢
  grind

/-- Name characters are letters, digits, the low line and the dollar sign. -/
theorem toNat_of_isNameChar {c : Char} (name : isNameChar c = true) :
    (48 ≤ c.toNat ∧ c.toNat ≤ 57) ∨ (65 ≤ c.toNat ∧ c.toNat ≤ 90) ∨
      (97 ≤ c.toNat ∧ c.toNat ≤ 122) ∨ c.toNat = 95 ∨ c.toNat = 36 := by
  simp only [isNameChar, Char.isAlphanum, Char.isAlpha, Char.isUpper, Char.isLower, Char.isDigit,
    Bool.or_eq_true, Bool.and_eq_true, decide_eq_true_eq, beq_iff_eq, ge_iff_le,
    UInt32.le_iff_toNat_le] at name
  rcases name with ((inLetters | inDigits) | rfl) | rfl
  · rcases inLetters with upper | lower
    · exact .inr (.inl upper)
    · exact .inr (.inr (.inl lower))
  · exact .inl inDigits
  · decide
  · decide

/-- A name character is no white space. -/
theorem isWhiteSpace_of_isNameChar {c : Char} (name : isNameChar c = true) :
    Text.isWhiteSpace c = false := by
  have range := toNat_of_isNameChar name
  simp only [Text.isWhiteSpace, Bool.or_eq_false_iff, Bool.and_eq_false_iff,
    decide_eq_false_iff_not, beq_eq_false_iff_ne]
  omega

theorem isBlank_of_isNameChar {c : Char} (name : isNameChar c = true) :
    Text.isBlank c = false := by
  have range := toNat_of_isNameChar name
  simp only [Text.isBlank, isWhiteSpace_of_isNameChar name, Bool.false_or, Bool.and_eq_false_iff,
    decide_eq_false_iff_not]
  omega

theorem isPlain_of_isNameChar {c : Char} (name : isNameChar c = true) : isPlain c = true := by
  simp only [isPlain, Bool.and_eq_true, bne_iff_ne, ne_eq]
  refine ⟨⟨?_, ?_⟩, ?_⟩ <;> rintro rfl <;> exact absurd name (by decide)

theorem isDigit_of_isNameStart {c : Char} (start : isNameStart c = true) : c.isDigit = false := by
  simp only [isNameStart, Char.isAlpha, Char.isUpper, Char.isLower, Bool.or_eq_true,
    Bool.and_eq_true, decide_eq_true_eq, beq_iff_eq, ge_iff_le, UInt32.le_iff_toNat_le] at start
  rcases start with (letter | rfl) | rfl
  · simp only [Char.isDigit, Bool.and_eq_false_iff, decide_eq_false_iff_not, ge_iff_le,
      UInt32.le_iff_toNat_le]
    have code : ('0'.val.toNat = 48 ∧ '9'.val.toNat = 57) := by decide
    have upper : ('A'.val.toNat = 65 ∧ 'a'.val.toNat = 97) := by decide
    omega
  · decide
  · decide

/-- Whether a text is a word. -/
def isWord : List Char → Bool
  | [] => false
  | c :: rest => isNameStart c && rest.all isNameChar

/-- A word spells itself. -/
theorem spells_word {text : List Char} (word : isWord text = true) :
    Spells text [.word (String.ofList text)] := by
  cases text with
  | nil => contradiction
  | cons c rest =>
      simp only [isWord, Bool.and_eq_true] at word
      obtain ⟨start, names⟩ := word
      have name := isNameChar_of_isNameStart start
      have plain : (c :: rest).all isPlain = true := by
        simp only [List.all_cons, Bool.and_eq_true, List.all_eq_true]
        exact ⟨isPlain_of_isNameChar name, fun other member =>
          isPlain_of_isNameChar (List.all_eq_true.mp names other member)⟩
      have single : tokens (c :: rest) = [.word (String.ofList (c :: rest))] := by
        simp [tokens, Lexing.advance, Lexing.enter, isWhiteSpace_of_isNameChar name,
          isDigit_of_isNameStart start, start, Lexing.lex_word names]
      rw [← single]
      exact spells_plain plain

/-! ## Strings -/

theorem isNameChar_hexDigit (n : Nat) : isNameChar (Text.hexDigit (n % 16)) = true := by
  have every : ∀ m < 16, isNameChar (Text.hexDigit m) = true := by decide
  exact every _ (Nat.mod_lt n (by decide))

namespace Lexing

theorem lex_string_cons {c : Char} (read rest : List Char) (name : isNameChar c = true) :
    lex (.string read) (c :: rest) = lex (.string (c :: read)) rest := by
  have noBackslash : c ≠ '\\' := by
    rintro rfl
    exact absurd name (by decide)
  have noQuote : c ≠ '"' := by
    rintro rfl
    exact absurd name (by decide)
  simp [advance, noBackslash, noQuote]

/-- A character inside quotes is read as it is written. -/
theorem lex_escape (read rest : List Char) (c : Char) :
    lex (.string read) (Text.escape c ++ rest) =
      lex (.string ((Text.escape c).reverse ++ read)) rest := by
  rcases Text.escape_cases c with ⟨mark, _, same⟩ | ⟨_, same⟩ | ⟨_, noQuote, noBackslash, same⟩
  · rw [same]
    rfl
  · rw [same]
    change lex (.string ('u' :: '\\' :: read)) (Text.hexFour c.toNat ++ rest) = _
    simp only [Text.hexFour, List.cons_append, List.nil_append,
      lex_string_cons _ _ (isNameChar_hexDigit _)]
    rfl
  · rw [same]
    simp [advance, noQuote, noBackslash]

theorem lex_escapes (read rest text : List Char) :
    lex (.string read) (text.flatMap Text.escape ++ rest) =
      lex (.string ((text.flatMap Text.escape).reverse ++ read)) rest := by
  induction text generalizing read with
  | nil => rfl
  | cons c text hypothesis =>
      rw [List.flatMap_cons, List.append_assoc, lex_escape, hypothesis, List.reverse_append,
        List.append_assoc]

end Lexing

/-- A quoted text is one string. -/
theorem stands_quote (text : List Char) :
    Stands (Text.quote text) [.string (text.flatMap Text.escape)] := by
  intro rest
  unfold Text.quote tokens
  rw [List.cons_append, List.append_assoc]
  change Lexing.lex (.string []) _ = _
  rw [Lexing.lex_escapes]
  simp [Lexing.advance]

end TypeScript
end ApiTypings
