import ApiTypings.Proofs.TypeScript.Reading
import ApiTypings.Text.Digit

/-!
# Keys of members

A key without quotes is read if it is a word or a number. Nothing else is: the words among the
tokens of a text are words, so that no object that is read has any other key.
-/

namespace ApiTypings
namespace TypeScript

/-- Whether a key can be read. -/
def MemberKey.IsLegible : MemberKey → Prop
  | .word name => isWord name.toList = true ∨ isDecimal name.toList = true
  | .quoted _ => True
  | .anyKey => True

/-! ## Words among tokens -/

namespace Lexing

/-- What is being read as a word is one. -/
def IsSteady : Lexing → Prop
  | .word read => isWord read.reverse = true
  | _ => True

theorem isWord_of_mem_finish
    {lexing : Lexing}
    (steady : lexing.IsSteady)
    {name : String}
    (listed : .word name ∈ lexing.finish) :
    isWord name.toList = true := by
  cases lexing with
  | word read =>
      cases List.mem_singleton.mp listed
      rw [String.toList_ofList]
      exact steady
  | code => contradiction
  | _ => cases List.mem_singleton.mp listed

/-- A word starts with a character that can start one, and at its start no word ends. -/
theorem isSteady_enter (c : Char) :
    (enter c).1.IsSteady ∧ ∀ name, .word name ∉ (enter c).2 := by
  unfold enter
  split_ifs with blank digit start <;> try exact ⟨trivial, fun _ => List.not_mem_nil⟩
  · refine ⟨?_, fun _ => List.not_mem_nil⟩
    simp [IsSteady, isWord, start]
  · refine ⟨trivial, fun name listed => ?_⟩
    cases List.mem_singleton.mp listed

theorem isWord_concat
    {read : List Char}
    (word : isWord read = true)
    {c : Char}
    (name : isNameChar c = true) :
    isWord (read ++ [c]) = true := by
  cases read with
  | nil => contradiction
  | cons first rest =>
      simp only [isWord, Bool.and_eq_true] at word
      simp [isWord, word.1, word.2, name]

/-- One step keeps words, and ends only words. -/
theorem isSteady_advance
    {lexing : Lexing}
    (steady : lexing.IsSteady)
    (c : Char) :
    (lexing.advance c).1.IsSteady ∧
      ∀ name, .word name ∈ (lexing.advance c).2 → isWord name.toList = true := by
  have left : (leave lexing c).1.IsSteady ∧
      ∀ name, .word name ∈ (leave lexing c).2 → isWord name.toList = true := by
    refine ⟨(isSteady_enter c).1, fun name listed => ?_⟩
    rcases List.mem_append.mp listed with ended | entered
    · exact isWord_of_mem_finish steady ended
    · exact absurd entered ((isSteady_enter c).2 name)
  cases lexing with
  | code =>
      obtain ⟨steadyNext, none⟩ := isSteady_enter c
      exact ⟨steadyNext, fun name listed => absurd listed (none name)⟩
  | word read =>
      rw [advance]
      split
      · rename_i name
        refine ⟨?_, by simp⟩
        rw [IsSteady, List.reverse_cons]
        exact isWord_concat steady name
      · exact left
  | number read =>
      rw [advance]
      split
      · exact ⟨trivial, by simp⟩
      · exact left
  | slash =>
      rw [advance]
      split
      · exact ⟨trivial, by simp⟩
      · exact left
  | string read =>
      rw [advance]
      split
      · exact ⟨trivial, by simp⟩
      · split <;> exact ⟨trivial, by simp⟩
  | escaped read => exact ⟨trivial, by simp [advance]⟩
  | comment star =>
      rw [advance]
      split <;> exact ⟨trivial, by simp⟩
  | template read =>
      rw [advance]
      split <;> exact ⟨trivial, by simp⟩

theorem isWord_of_mem_lex
    {lexing : Lexing}
    (steady : lexing.IsSteady)
    {text : List Char}
    {name : String}
    (listed : .word name ∈ lexing.lex text) :
    isWord name.toList = true := by
  induction text generalizing lexing with
  | nil => exact isWord_of_mem_finish steady listed
  | cons c rest hypothesis =>
      obtain ⟨steadyNext, words⟩ := isSteady_advance steady c
      rw [lex_cons] at listed
      rcases List.mem_append.mp listed with here | later
      · exact words name here
      · exact hypothesis steadyNext later

end Lexing

/-- The words of a text are words. -/
theorem isWord_of_mem_tokens
    {text : List Char}
    {name : String}
    (listed : .word name ∈ tokens text) :
    isWord name.toList = true := by
  have steady : Lexing.code.IsSteady := trivial
  exact Lexing.isWord_of_mem_lex steady listed

/-! ## Keys of objects -/

/-- A key of an object type, or of one that is the type of a member. -/
inductive Tree.HasKey (key : MemberKey) : Tree → Prop
  | here {fields : List (Field Tree)} {field : Field Tree} (listed : field ∈ fields)
      (same : field.key = key) : HasKey key (.object fields)
  | inside {fields : List (Field Tree)} {field : Field Tree} (listed : field ∈ fields)
      (has : HasKey key field.type) : HasKey key (.object fields)

theorem ReadsKey.isLegible
    {tokens : List Token}
    {key : MemberKey}
    (reads : ReadsKey tokens key)
    (words : ∀ name, .word name ∈ tokens → isWord name.toList = true) :
    key.IsLegible := by
  cases reads with
  | word name => exact .inl (words name (List.mem_singleton_self _))
  | number decimal => exact .inr decimal
  | quoted _ => trivial
  | anyKey _ => trivial

/-- Every key of an object that is read is legible. -/
theorem Reads.isLegible_of_hasKey
    {binding : Binding}
    {tokens : List Token}
    {tree : Tree}
    (reads : Reads binding tokens tree)
    (words : ∀ name, .word name ∈ tokens → isWord name.toList = true)
    {key : MemberKey}
    (has : tree.HasKey key) :
    key.IsLegible := by
  induction reads with
  | @object fields keys types hypothesis =>
      have within {entry : Field Tree × List Token × List Token} (listed : entry ∈ fields)
          {token : Token} (inside : token ∈ entry.2.1 ∨ token ∈ entry.2.2) :
          token ∈ .mark '{' ::
            (fields.flatMap (fun entry => entry.1.tokens entry.2.1 entry.2.2) ++ [.mark '}']) := by
        refine List.mem_cons_of_mem _ (List.mem_append_left _ (List.mem_flatMap.mpr
          ⟨entry, listed, ?_⟩))
        unfold Field.tokens
        rcases inside with key | type <;> simp [*]
      cases has with
      | here listed same =>
          obtain ⟨entry, inFields, rfl⟩ := List.mem_map.mp listed
          rw [← same]
          exact (keys entry inFields).isLegible fun name member =>
            words name (within inFields (.inl member))
      | inside listed has =>
          obtain ⟨entry, inFields, rfl⟩ := List.mem_map.mp listed
          exact hypothesis entry inFields
            (fun name member => words name (within inFields (.inr member))) has
  | group _ hypothesis =>
      exact hypothesis (fun name member => words name
        (List.mem_cons_of_mem _ (List.mem_append_left _ member))) has
  | part _ hypothesis => exact hypothesis words has
  | member _ hypothesis => exact hypothesis words has
  | _ => contradiction

/-- Every key of an object as which a text is read is legible. -/
theorem Parses.isLegible_of_hasKey
    {text : String}
    {tree : Tree}
    (parses : Parses text tree)
    {key : MemberKey}
    (has : tree.HasKey key) :
    key.IsLegible :=
  Reads.isLegible_of_hasKey parses (fun _ => isWord_of_mem_tokens) has

/-! ## Digits as keys -/

/-- A digit of any script continues neither a fraction nor an exponent. -/
theorem exponentPart_of_digits {text : List Char} (digits : ∀ c ∈ text, Text.isDigit c = true) :
    (Json.exponentPart (Json.fractionPart text).2).2 = text := by
  cases text with
  | nil => rfl
  | cons c rest =>
      have digit := digits c List.mem_cons_self
      have noPoint : c ≠ '.' := by
        rintro rfl
        exact absurd digit (by decide)
      have noMark : (c == 'e' || c == 'E') = false := by
        rw [Bool.or_eq_false_iff, beq_eq_false_iff_ne, beq_eq_false_iff_ne]
        constructor <;> rintro rfl <;> exact absurd digit (by decide)
      have point : Json.fractionPart (c :: rest) = (none, c :: rest) := by
        unfold Json.fractionPart
        split
        · rename_i same
          exact absurd (List.cons.inj same).1 noPoint
        · rfl
      rw [point]
      simp [Json.exponentPart, noMark]

/-- A number that consists of digits of any script consists of decimal digits, and starts
with none that is zero unless it is the only one. -/
theorem isWhole_of_isDecimal
    {text : List Char}
    (digits : ∀ c ∈ text, Text.isDigit c = true)
    (decimal : isDecimal text = true) :
    IsWhole text := by
  unfold isDecimal at decimal
  split at decimal
  · contradiction
  · rename_i read rest split
    unfold Json.wholePart at split
    split at split
    · rename_i behind
      cases split
      rw [exponentPart_of_digits fun c member => digits c (List.mem_cons_of_mem _ member),
        List.isEmpty_iff] at decimal
      rw [decimal]
      exact .inl rfl
    · rename_i c behind noZero
      split at split
      · rename_i digit
        cases split
        rw [exponentPart_of_digits fun d member => digits d (List.mem_cons_of_mem _
          (List.dropWhile_subset _ member)), List.isEmpty_iff,
          List.dropWhile_eq_nil_iff] at decimal
        refine .inr ⟨c, behind, rfl, noZero, ?_⟩
        intro d member
        rcases List.mem_cons.mp member with rfl | later
        · exact digit
        · exact decimal d later
      · cases split
    · cases split

/-- Digits that are a number are read as a key. -/
theorem reads_digits
    {status : String}
    (digits : Text.allDigits status.toList = true)
    (decimal : isDecimal status.toList = true) :
    ReadsKey (tokens status.toList) (.word status) := by
  simp only [Text.allDigits, Bool.and_eq_true, List.all_eq_true] at digits
  have whole := isWhole_of_isDecimal digits.2 decimal
  have numeral := IsNumeral.mk whole (.inl rfl) (.inl rfl)
  rw [List.append_nil, List.append_nil] at numeral
  rw [numeral.spells.tokens_eq, String.ofList_toList]
  exact .number decimal

/-- A word does not consist of digits. -/
theorem not_allDigits_of_isWord {text : List Char} (word : isWord text = true) :
    Text.allDigits text = false := by
  have ascii : ∀ code < 128, isNameStart (Char.ofNat code) = true →
      Text.isDigit (Char.ofNat code) = false := by decide
  cases text with
  | nil => rfl
  | cons c rest =>
      simp only [isWord, Bool.and_eq_true] at word
      have range := toNat_of_isNameChar (isNameChar_of_isNameStart word.1)
      have digit := ascii c.toNat (by omega)
      rw [Char.ofNat_toNat] at digit
      simp [Text.allDigits, digit word.1]

/-- A key of digits is legible exactly if it is a number. -/
theorem isLegible_of_digits
    {status : String}
    (digits : Text.allDigits status.toList = true)
    (legible : (MemberKey.word status).IsLegible) :
    isDecimal status.toList = true := by
  rcases legible with word | decimal
  · rw [not_allDigits_of_isWord word] at digits
    contradiction
  · exact decimal

end TypeScript
end ApiTypings
