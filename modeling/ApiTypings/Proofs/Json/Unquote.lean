import ApiTypings.Json.Reader
import ApiTypings.Proofs.Text.Halves
import ApiTypings.Text.Quoted
import Mathlib

/-!
# Reading back quoted texts

What stands between the quotes of a quoted text is read as the text. So no two
texts are quoted alike. Half of a surrogate pair that is escaped on its own is read as
well, but what is read then cannot be written out.
-/

namespace ApiTypings

namespace Text

/-- A character inside quotes has a short escape, is a control character with a
numeric one, or stands for itself. -/
theorem escape_cases (c : Char) :
    (∃ mark, shortEscape? c = some mark ∧ escape c = ['\\', mark]) ∨
      (c.toNat < 0x20 ∧ escape c = unicodeEscape c.toNat) ∨
      (¬ c.toNat < 0x20 ∧ c ≠ '"' ∧ c ≠ '\\' ∧ escape c = [c]) := by
  cases short : shortEscape? c with
  | some mark => exact .inl ⟨mark, rfl, by simp [escape, short]⟩
  | none =>
      right
      by_cases control : c.toNat < 0x20
      · exact .inl ⟨control, by simp [escape, short, control]⟩
      · refine .inr ⟨control, ?_, ?_, by simp [escape, short, control]⟩
        · rintro rfl
          exact absurd short (by decide)
        · rintro rfl
          exact absurd short (by decide)

end Text

namespace Json

/-- The text that is written between quotes as the given characters. -/
def unquote? (raw : List Char) : Option String :=
  match readText (raw ++ ['"']) with
  | .ok step => if step.rest.isEmpty then some step.value else none
  | .error _ => none

theorem hexValue?_hexDigit {digit : Nat} (small : digit < 16) :
    Text.hexValue? (Text.hexDigit digit) = some digit := by
  have every : ∀ n < 16, Text.hexValue? (Text.hexDigit n) = some n := by decide
  exact every digit small

/-- Four hexadecimal digits are read as their number. -/
theorem codeUnit?_hexFour {n : Nat} (small : n < 0x10000) :
    codeUnit? (Text.hexDigit (n / 0x1000 % 16)) (Text.hexDigit (n / 0x100 % 16))
      (Text.hexDigit (n / 0x10 % 16)) (Text.hexDigit (n % 16)) = some n := by
  have below (k : Nat) : k % 16 < 16 := Nat.mod_lt k (by decide)
  have sum : n / 0x1000 % 16 * 0x1000 + n / 0x100 % 16 * 0x100 + n / 0x10 % 16 * 0x10 + n % 16 =
      n := by
    omega
  simp only [codeUnit?, hexValue?_hexDigit (below _), Option.bind_eq_bind, Option.bind_some, sum]
  rfl

/-- A numeric escape is read as its code unit, unless another escape may complete it to a
pair. -/
theorem readUnit_hexFour
    {unit : Nat}
    (small : unit < 0x10000)
    {next : Char}
    (alone : isHighSurrogate unit = true → next ≠ '\\')
    (rest : List Char) :
    ∃ shorter, readUnit (Text.hexFour unit ++ next :: rest) = .ok ⟨unit, next :: rest, shorter⟩ := by
  refine ⟨by simp [Text.hexFour], ?_⟩
  simp only [readUnit, Text.hexFour, List.cons_append, List.nil_append, codeUnit?_hexFour small]
  by_cases high : isHighSurrogate unit = true
  · simp [alone high]
  · simp [high]

/-- The short escape of a character is read as the character. -/
theorem unescape?_of_shortEscape?
    {c mark : Char}
    (short : Text.shortEscape? c = some mark) :
    unescape? mark = some c ∧ mark ≠ 'u' := by
  unfold Text.shortEscape? at short
  split at short <;> first | contradiction | (cases short; decide)

/-- A character inside quotes is read as it was before quoting, if more follows. -/
theorem readChars_escape
    {start read rest value : List Char}
    {c : Char}
    {shorter : List.length [] < rest.length}
    (others : readChars start (c :: read) rest = .ok ⟨value, [], shorter⟩) :
    ∃ shorter, readChars start read (Text.escape c ++ rest) = .ok ⟨value, [], shorter⟩ := by
  have longer (quoted : List Char) : 0 < (quoted ++ rest).length := by
    rw [List.length_append]
    exact Nat.lt_of_lt_of_le shorter (Nat.le_add_left _ _)
  rcases Text.escape_cases c with ⟨mark, short, same⟩ | ⟨control, same⟩ |
    ⟨printable, noQuote, noBackslash, same⟩
  · obtain ⟨unescaped, noUnit⟩ := unescape?_of_shortEscape? short
    rw [same]
    refine ⟨longer _, ?_⟩
    simp only [List.cons_append, List.nil_append]
    rw [readChars]
    · simp only [unescaped, others]
      rfl
    · exact noUnit
  · obtain ⟨next, more, rfl⟩ := List.exists_cons_of_length_pos shorter
    have low : ¬ isHighSurrogate c.toNat = true := by
      simp only [isHighSurrogate, Bool.and_eq_true, decide_eq_true_eq]
      omega
    have whole : Text.ofCode c.toNat = [c] := by
      have noMark : c ≠ Text.halfMark := by
        rintro rfl
        exact absurd control (by decide)
      rw [Text.ofCode_of_not_half (Text.isHalf_toNat c), Char.ofNat_toNat, Text.markedChar,
        if_neg noMark]
    obtain ⟨_, unit⟩ := readUnit_hexFour (by omega) (fun high => absurd high low) more
    rw [same]
    refine ⟨longer _, ?_⟩
    simp only [Text.unicodeEscape, List.cons_append]
    rw [readChars, unit]
    simp only [bind, Except.bind, whole, List.reverse_singleton, List.singleton_append, others]
    rfl
  · rw [same]
    refine ⟨longer _, ?_⟩
    simp only [List.cons_append, List.nil_append]
    rw [readChars]
    · simp only [printable, if_false, others]
      rfl
    · exact noQuote
    · exact fun backslash _ => noBackslash backslash
    · exact fun _ backslash _ => noBackslash backslash
    · exact fun _ _ backslash _ => noBackslash backslash

/-- Quoted characters in front of the closing quote are read as they were before
quoting. -/
theorem readChars_escapes (start read text : List Char) :
    ∃ shorter,
      readChars start read (text.flatMap Text.escape ++ ['"']) =
        .ok ⟨read.reverse ++ text, [], shorter⟩ := by
  induction text generalizing read with
  | nil =>
      refine ⟨by simp, ?_⟩
      change readChars start read ['"'] = _
      simp [readChars]
  | cons c text hypothesis =>
      obtain ⟨_, others⟩ := hypothesis (c :: read)
      rw [List.reverse_cons, List.append_assoc] at others
      rw [List.flatMap_cons, List.append_assoc]
      exact readChars_escape others

theorem readText_escapes (text : String) :
    ∃ shorter,
      readText (text.toList.flatMap Text.escape ++ ['"']) = .ok ⟨text, [], shorter⟩ := by
  obtain ⟨shorter, whole⟩ :=
    readChars_escapes ('"' :: (text.toList.flatMap Text.escape ++ ['"'])) [] text.toList
  refine ⟨shorter, ?_⟩
  rw [readText, whole]
  simp [bind, Except.bind, Step.map, pure, Except.pure]

/-- A quoted text is read as the text. -/
theorem unquote?_escape (text : String) :
    unquote? (text.toList.flatMap Text.escape) = some text := by
  obtain ⟨_, whole⟩ := readText_escapes text
  rw [unquote?, whole]
  rfl

/-- Half of a surrogate pair is read if it is escaped on its own, and cannot be written out. -/
theorem unquote?_half {code : Nat} (half : Text.isHalf code = true) :
    ∃ text, unquote? (Text.unicodeEscape code) = some text ∧
      Text.codes text.toList = [code] ∧ ∀ plain, Text.plain? text ≠ .ok plain := by
  have small : code < 0xE000 := by
    simp only [Text.isHalf, Bool.and_eq_true, decide_eq_true_eq] at half
    exact half.2
  have found : Text.codes (Text.ofCode code) = [code] := by
    have made := Text.codes_ofCode_append (show code < 0x110000 by omega) []
    rwa [List.append_nil] at made
  refine ⟨String.ofList (Text.ofCode code), ?_, ?_, ?_⟩
  · obtain ⟨_, unit⟩ :=
      readUnit_hexFour (show code < 0x10000 by omega) (fun _ => show '"' ≠ '\\' by decide) []
    simp only [unquote?, readText, Text.unicodeEscape, List.cons_append]
    rw [readChars, unit]
    simp [bind, Except.bind, readChars, pure, Except.pure, Step.widen, Step.map]
  · rw [String.toList_ofList, found]
  · intro plain written
    obtain ⟨whole, _⟩ := Text.plain?_eq_ok_iff.mp written
    rw [String.toList_ofList, found] at whole
    have none := whole code List.mem_cons_self
    rw [half] at none
    cases none

/-- A quoted text alone is the JSON text of the text. -/
theorem read_quoted (text : String) : read (Text.quoted text).toList = .ok (.text text) := by
  obtain ⟨_, whole⟩ := readText_escapes text
  have skipped : skipSpace (Text.quote text.toList) = Text.quote text.toList := rfl
  rw [Text.quoted, String.toList_ofList, read, skipped, Text.quote, readValue, whole]
  · rfl
  · simp [Text.quote]

end Json
end ApiTypings
