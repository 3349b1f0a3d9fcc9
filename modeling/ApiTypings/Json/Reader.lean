import ApiTypings.Decimal.Limit
import ApiTypings.Decimal.Numeral
import ApiTypings.Text.Half
import ApiTypings.Value

/-!
# Reading JSON

A reader that consumes a list of characters. It accepts `NaN`, `Infinity` and
`-Infinity`, and it reports a fault together with the characters left at the
place of the fault, from which `Fault.describe` computes line and column.
Every step returns a rest that is shorter than its input, so reading ends.
-/

namespace ApiTypings
namespace Json

/-- What is wrong with a text. -/
inductive Problem
  | value
  | propertyName
  | colon
  | comma
  | unterminated
  | escape
  | unicodeEscape
  | controlCharacter
  | extraData
  | byteOrderMark
  | longInteger (digits : Nat)
  deriving DecidableEq, Repr

/-- The wording of a problem. -/
def Problem.message : Problem → String
  | .value => "Expecting value"
  | .propertyName => "Expecting property name enclosed in double quotes"
  | .colon => "Expecting ':' delimiter"
  | .comma => "Expecting ',' delimiter"
  | .unterminated => "Unterminated string starting at"
  | .escape => "Invalid \\escape"
  | .unicodeEscape => "Invalid \\uXXXX escape"
  | .controlCharacter => "Invalid control character at"
  | .extraData => "Extra data"
  | .byteOrderMark => "Unexpected UTF-8 BOM (decode using utf-8-sig)"
  | .longInteger digits => Decimal.limitMessage (some digits)

/-- A problem and the input from its place on. -/
structure Fault where
  problem : Problem
  rest : List Char

/-- A fault in a text: what is wrong, and where, counting code points from zero
and lines and columns from one. -/
def Fault.describe (fault : Fault) (text : List Char) : String :=
  let before := text.take (text.length - fault.rest.length)
  let line := before.count '\n' + 1
  let column := (Text.codes (before.reverse.takeWhile (· != '\n')).reverse).length + 1
  fault.problem.message ++ ": line " ++ toString line ++ " column " ++ toString column ++
    " (char " ++ toString (Text.codes before).length ++ ")"

/-- What a step read, and the shorter rest of its input. -/
structure Step (α : Type) (input : List Char) where
  value : α
  rest : List Char
  shorter : rest.length < input.length

/-- Read the same from a longer input. -/
def Step.widen
    {α : Type}
    {inner outer : List Char}
    (step : Step α inner)
    (bound : inner.length ≤ outer.length) :
    Step α outer :=
  ⟨step.value, step.rest, Nat.lt_of_lt_of_le step.shorter bound⟩

/-- Change what a step read. -/
def Step.map
    {α β : Type}
    {input : List Char}
    (change : α → β)
    (step : Step α input) :
    Step β input :=
  ⟨change step.value, step.rest, step.shorter⟩

/-- The blanks of JSON. -/
def isSpace (c : Char) : Bool :=
  c == ' ' || c == '\t' || c == '\n' || c == '\r'

/-- The input after leading blanks. -/
def skipSpace (input : List Char) : List Char :=
  input.dropWhile isSpace

/-- Dropping characters does not make a list longer. -/
theorem length_dropWhile_le (p : Char → Bool) (input : List Char) :
    (input.dropWhile p).length ≤ input.length :=
  (List.dropWhile_sublist p).length_le

/-- Skipping blanks does not make the input longer. -/
theorem length_skipSpace_le (input : List Char) :
    (skipSpace input).length ≤ input.length :=
  length_dropWhile_le isSpace input

/-- The code unit of four hexadecimal digits. -/
def codeUnit? (a b c d : Char) : Option Nat := do
  let a ← Text.hexValue? a
  let b ← Text.hexValue? b
  let c ← Text.hexValue? c
  let d ← Text.hexValue? d
  return a * 0x1000 + b * 0x100 + c * 0x10 + d

/-- The character of a short escape. -/
def unescape? : Char → Option Char
  | '"' => some '"'
  | '\\' => some '\\'
  | '/' => some '/'
  | 'b' => some '\x08'
  | 'f' => some '\x0c'
  | 'n' => some '\n'
  | 'r' => some '\r'
  | 't' => some '\t'
  | _ => none

/-- The code point of two surrogates, if they form a pair. -/
def pairCode? (high low : Nat) : Option Nat :=
  if 0xD800 ≤ high ∧ high < 0xDC00 ∧ 0xDC00 ≤ low ∧ low < 0xE000 then
    some (0x10000 + (high - 0xD800) * 0x400 + (low - 0xDC00))
  else none

/-- Whether a code unit opens a surrogate pair. -/
def isHighSurrogate (unit : Nat) : Bool :=
  0xD800 ≤ unit && unit < 0xDC00

/-- The code point of a numeric escape, read after its `u`. Its four digits must
be followed by a further character, and a second escape may complete a
surrogate pair. -/
def readUnit (input : List Char) : Except Fault (Step Nat input) :=
  match input with
  | a :: b :: c :: d :: next :: rest =>
      match codeUnit? a b c d with
      | none => .error ⟨.unicodeEscape, 'u' :: a :: b :: c :: d :: next :: rest⟩
      | some unit =>
          match isHighSurrogate unit, next, rest with
          | true, '\\', 'u' :: a' :: b' :: c' :: d' :: last :: more =>
              match codeUnit? a' b' c' d' with
              | none => .error ⟨.unicodeEscape, 'u' :: a' :: b' :: c' :: d' :: last :: more⟩
              | some low =>
                  match pairCode? unit low with
                  | some code => .ok ⟨code, last :: more, by simp⟩
                  | none =>
                      .ok ⟨unit, '\\' :: 'u' :: a' :: b' :: c' :: d' :: last :: more, by simp⟩
          | _, next, rest => .ok ⟨unit, next :: rest, by simp⟩
  | short => .error ⟨.unicodeEscape, 'u' :: short⟩

/-- The characters of a text up to its closing quote, and the rest after it.
`start` is the input from the opening quote on, and `read` holds what was read
so far in reverse. -/
def readChars (start : List Char) (read : List Char) (input : List Char) :
    Except Fault (Step (List Char) input) :=
  match input with
  | [] => .error ⟨.unterminated, start⟩
  | '"' :: rest => .ok ⟨read.reverse, rest, by simp⟩
  | ['\\'] => .error ⟨.unterminated, start⟩
  | '\\' :: 'u' :: rest => do
      let unit ← readUnit rest
      let step ← readChars start ((Text.ofCode unit.value).reverse ++ read) unit.rest
      return step.widen (by
        have shorter := unit.shorter
        simp
        omega)
  | '\\' :: mark :: rest =>
      match unescape? mark with
      | none => .error ⟨.escape, '\\' :: mark :: rest⟩
      | some char => do
          let step ← readChars start (char :: read) rest
          return step.widen (by simp; omega)
  | c :: rest =>
      if c.toNat < 0x20 then .error ⟨.controlCharacter, c :: rest⟩
      else do
        let step ← readChars start (c :: read) rest
        return step.widen (by simp)
termination_by input.length
decreasing_by
  · have shorter := unit.shorter
    simp only [List.length_cons]
    omega
  · simp only [List.length_cons]
    omega
  · simp

/-- The text after an opening quote. -/
def readText (input : List Char) : Except Fault (Step String input) := do
  let step ← readChars ('"' :: input) [] input
  return step.map String.ofList

/-- The lexeme of a number: its whole digits, its fraction digits and its
exponent, where fraction and exponent may be missing. -/
structure NumberParts where
  negative : Bool
  whole : List Char
  fraction : Option (List Char)
  exponent : Option (Bool × List Char)

/-- The whole part of a number: a zero, or digits that start with another
one. -/
def wholePart (input : List Char) : Option (List Char × List Char) :=
  match input with
  | '0' :: rest => some (['0'], rest)
  | c :: rest =>
      if c.isDigit then
        some (c :: rest.takeWhile Char.isDigit, rest.dropWhile Char.isDigit)
      else none
  | [] => none

/-- A fraction, if the input starts with a point and a digit. -/
def fractionPart (input : List Char) : Option (List Char) × List Char :=
  match input with
  | '.' :: rest =>
      if (rest.takeWhile Char.isDigit).isEmpty then (none, input)
      else (some (rest.takeWhile Char.isDigit), rest.dropWhile Char.isDigit)
  | _ => (none, input)

/-- An exponent, if the input starts with a complete one. -/
def exponentPart (input : List Char) : Option (Bool × List Char) × List Char :=
  match input with
  | mark :: rest =>
      if mark == 'e' || mark == 'E' then
        let (negative, body) :=
          match rest with
          | '-' :: more => (true, more)
          | '+' :: more => (false, more)
          | more => (false, more)
        if (body.takeWhile Char.isDigit).isEmpty then (none, input)
        else (some (negative, body.takeWhile Char.isDigit), body.dropWhile Char.isDigit)
      else (none, input)
  | [] => (none, input)

/-- The value of a number: an integer unless it has a fraction or an
exponent. -/
def NumberParts.value (parts : NumberParts) : Value :=
  match parts.fraction, parts.exponent with
  | none, none =>
      let size : Int := Decimal.ofDigits 10 parts.whole
      .int (if parts.negative then -size else size)
  | fraction, exponent =>
      let after := fraction.getD []
      let shift : Int :=
        match exponent with
        | none => 0
        | some (negative, digits) =>
            let size : Int := Decimal.ofDigits 10 digits
            if negative then -size else size
      .float (Decimal.toFloat parts.negative
        (Decimal.ofDigits 10 (parts.whole ++ after)) (shift - after.length))

/-- The longest number at the start of the input. -/
def readNumber? (input : List Char) : Option (Value × List Char) :=
  let (negative, body) :=
    match input with
    | '-' :: rest => (true, rest)
    | other => (false, other)
  (wholePart body).map fun (whole, afterWhole) =>
    let (fraction, afterFraction) := fractionPart afterWhole
    let (exponent, rest) := exponentPart afterFraction
    (NumberParts.value ⟨negative, whole, fraction, exponent⟩, rest)

/-- The words that stand for a value. -/
def words : List (List Char × Value) :=
  [("null".toList, .null), ("true".toList, .bool true), ("false".toList, .bool false),
    ("NaN".toList, .float (0.0 / 0.0)), ("Infinity".toList, .float (1.0 / 0.0)),
    ("-Infinity".toList, .float (-1.0 / 0.0))]

/-- A word or a number at the start of the input. -/
def readScalar? (input : List Char) : Option (Value × List Char) :=
  match words.find? fun word => word.1.isPrefixOf input with
  | some (word, value) => some (value, input.drop word.length)
  | none => readNumber? input

/-- The number of digits of an integer that is too long. -/
def longInteger? : Value → Option Nat
  | .int number =>
      if Decimal.isWritable number then none else some (Nat.toDigits 10 number.natAbs).length
  | _ => none

/-- A scalar as a step; the rest is checked to be shorter. -/
def readScalar (input : List Char) : Except Fault (Step Value input) :=
  match readScalar? input with
  | none => .error ⟨.value, input⟩
  | some (value, rest) =>
      match longInteger? value with
      | some digits => .error ⟨.longInteger digits, input⟩
      | none =>
          if shorter : rest.length < input.length then .ok ⟨value, rest, shorter⟩
          else .error ⟨.value, input⟩

mutual

/-- The value at the start of the input. -/
def readValue (input : List Char) : Except Fault (Step Value input) :=
  match input with
  | '"' :: rest => do
      let step ← readText rest
      return (step.map Value.text).widen (by simp)
  | '[' :: rest =>
      match opened : skipSpace rest with
      | ']' :: after =>
          .ok ⟨.list [], after, by
            have bound := length_skipSpace_le rest
            rw [opened] at bound
            simp at bound ⊢
            omega⟩
      | inner => do
          let step ← readItems inner
          return (step.map Value.list).widen (by
            have bound := length_skipSpace_le rest
            rw [opened] at bound
            simp at bound ⊢
            omega)
  | '{' :: rest =>
      match opened : skipSpace rest with
      | '}' :: after =>
          .ok ⟨.mapping [], after, by
            have bound := length_skipSpace_le rest
            rw [opened] at bound
            simp at bound ⊢
            omega⟩
      | inner => do
          let step ← readEntries inner
          return (step.map fun pairs => Value.mapping (Entries.ofPairs pairs)).widen (by
            have bound := length_skipSpace_le rest
            rw [opened] at bound
            simp at bound ⊢
            omega)
  | other => readScalar other
termination_by (input.length, 0)
decreasing_by
  all_goals
    have bound := length_skipSpace_le rest
    rw [opened] at bound
    simp only [List.length_cons] at bound ⊢
    exact Prod.Lex.left _ _ (by omega)

/-- The items of a list up to its closing bracket. -/
def readItems (input : List Char) : Except Fault (Step (List Value) input) := do
  let first ← readValue input
  match after : skipSpace first.rest with
  | ']' :: rest =>
      return ⟨[first.value], rest, by
        have bound := length_skipSpace_le first.rest
        have shorter := first.shorter
        rw [after] at bound
        simp at bound
        omega⟩
  | ',' :: rest => do
      let more ← readItems (skipSpace rest)
      return (more.map (first.value :: ·)).widen (by
        have bound := length_skipSpace_le first.rest
        have shorter := first.shorter
        have skipped := length_skipSpace_le rest
        rw [after] at bound
        simp at bound
        omega)
  | other => throw ⟨.comma, other⟩
termination_by (input.length, 1)
decreasing_by
  · exact Prod.Lex.right _ (by omega)
  · have bound := length_skipSpace_le first.rest
    have shorter := first.shorter
    have skipped := length_skipSpace_le rest
    rw [after] at bound
    simp only [List.length_cons] at bound
    exact Prod.Lex.left _ _ (by omega)

/-- The entries of a mapping up to its closing brace. -/
def readEntries (input : List Char) :
    Except Fault (Step (List (String × Value)) input) :=
  match input with
  | '"' :: quotedRest => do
      let key ← readText quotedRest
      match colon : skipSpace key.rest with
      | ':' :: afterColon => do
          let value ← readValue (skipSpace afterColon)
          match after : skipSpace value.rest with
          | '}' :: rest =>
              return ⟨[(key.value, value.value)], rest, by
                have keyBound := length_skipSpace_le key.rest
                have keyShorter := key.shorter
                have valueShorter := value.shorter
                have skipped := length_skipSpace_le afterColon
                have bound := length_skipSpace_le value.rest
                rw [colon] at keyBound
                rw [after] at bound
                simp at bound keyBound ⊢
                omega⟩
          | ',' :: rest => do
              let more ← readEntries (skipSpace rest)
              return (more.map ((key.value, value.value) :: ·)).widen (by
                have keyBound := length_skipSpace_le key.rest
                have keyShorter := key.shorter
                have valueShorter := value.shorter
                have skipped := length_skipSpace_le afterColon
                have bound := length_skipSpace_le value.rest
                have moreSkipped := length_skipSpace_le rest
                rw [colon] at keyBound
                rw [after] at bound
                simp at bound keyBound ⊢
                omega)
          | other => throw ⟨.comma, other⟩
      | other => throw ⟨.colon, other⟩
  | other => .error ⟨.propertyName, other⟩
termination_by (input.length, 1)
decreasing_by
  · have keyBound := length_skipSpace_le key.rest
    have keyShorter := key.shorter
    have skipped := length_skipSpace_le afterColon
    rw [colon] at keyBound
    simp only [List.length_cons] at keyBound ⊢
    exact Prod.Lex.left _ _ (by omega)
  · have keyBound := length_skipSpace_le key.rest
    have keyShorter := key.shorter
    have valueShorter := value.shorter
    have skipped := length_skipSpace_le afterColon
    have bound := length_skipSpace_le value.rest
    have moreSkipped := length_skipSpace_le rest
    rw [colon] at keyBound
    rw [after] at bound
    simp only [List.length_cons] at bound keyBound ⊢
    exact Prod.Lex.left _ _ (by omega)

end

/-- The value of a whole text. -/
def read (text : List Char) : Except Fault Value :=
  match text with
  | '﻿' :: _ => .error ⟨.byteOrderMark, text⟩
  | _ => do
      let step ← readValue (skipSpace text)
      match skipSpace step.rest with
      | [] => return step.value
      | extra => throw ⟨.extraData, extra⟩

end Json
end ApiTypings
