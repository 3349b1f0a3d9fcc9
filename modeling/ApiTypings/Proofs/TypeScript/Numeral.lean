import ApiTypings.Proofs.TypeScript.Grammar

/-!
# Numbers as literals

Integers and finite floats are written as decimals: a whole part without leading
zeros, then possibly a fraction and an exponent. Every decimal is one token, and
the grammar reads it as a number.
-/

namespace ApiTypings
namespace TypeScript

open Decimal

/-- Decimal digits. -/
def AllDigits (text : List Char) : Prop :=
  ∀ c ∈ text, c.isDigit = true

/-- A whole part: a zero, or digits that start with another one. -/
def IsWhole (text : List Char) : Prop :=
  text = ['0'] ∨ ∃ c rest, text = c :: rest ∧ c ≠ '0' ∧ AllDigits text

/-- A fraction, or nothing. -/
def IsFraction (text : List Char) : Prop :=
  text = [] ∨ ∃ digits, text = '.' :: digits ∧ digits ≠ [] ∧ AllDigits digits

/-- An exponent with a sign, or nothing. -/
def IsExponent (text : List Char) : Prop :=
  text = [] ∨ ∃ sign digits, text = 'e' :: sign :: digits ∧ (sign = '+' ∨ sign = '-') ∧
    digits ≠ [] ∧ AllDigits digits

/-- A decimal. -/
inductive IsNumeral : List Char → Prop
  | mk
      {whole fraction exponent : List Char}
      (isWhole : IsWhole whole)
      (isFraction : IsFraction fraction)
      (isExponent : IsExponent exponent) :
      IsNumeral (whole ++ (fraction ++ exponent))

section Digits

variable {text digits rest : List Char}

theorem AllDigits.append (left : AllDigits digits) (right : AllDigits rest) :
    AllDigits (digits ++ rest) := by
  intro c member
  rcases List.mem_append.mp member with inLeft | inRight
  · exact left c inLeft
  · exact right c inRight

theorem allDigits_replicate (count : Nat) : AllDigits (List.replicate count '0') := by
  intro c member
  rw [List.eq_of_mem_replicate member]
  rfl

theorem allDigits_digits (n : Nat) : AllDigits (Decimal.digits n) :=
  fun _ member => Nat.isDigit_of_mem_toDigits (by decide) (by decide) member

theorem IsWhole.allDigits (whole : IsWhole text) : AllDigits text := by
  rcases whole with rfl | ⟨_, _, _, _, all⟩
  · exact allDigits_replicate 1
  · exact all

end Digits

/-! ## Decimals are read as numbers -/

/-- A text does not start with a digit. -/
def NoDigit (text : List Char) : Prop :=
  ∀ c, text.head? = some c → c.isDigit = false

theorem noDigit_nil : NoDigit [] := by
  simp [NoDigit]

theorem noDigit_cons {c : Char} (other : c.isDigit = false) (rest : List Char) :
    NoDigit (c :: rest) := by
  rintro d ⟨⟩
  exact other

theorem IsExponent.noDigit {text : List Char} (exponent : IsExponent text) : NoDigit text := by
  rcases exponent with rfl | ⟨sign, digits, rfl, _⟩
  · exact noDigit_nil
  · exact noDigit_cons rfl _

theorem IsFraction.noDigit_append
    {fraction exponent : List Char}
    (isFraction : IsFraction fraction)
    (isExponent : IsExponent exponent) :
    NoDigit (fraction ++ exponent) := by
  rcases isFraction with rfl | ⟨digits, rfl, _⟩
  · exact isExponent.noDigit
  · exact noDigit_cons rfl _

/-- A text that does not start with a digit ends a run of digits. -/
theorem takeWhile_digits
    {digits rest : List Char}
    (all : AllDigits digits)
    (stop : NoDigit rest) :
    (digits ++ rest).takeWhile Char.isDigit = digits ∧
      (digits ++ rest).dropWhile Char.isDigit = rest := by
  have alone : rest.takeWhile Char.isDigit = [] ∧ rest.dropWhile Char.isDigit = rest := by
    cases rest with
    | nil => exact ⟨rfl, rfl⟩
    | cons c rest => simp [stop c rfl]
  rw [List.takeWhile_append_of_pos all, List.dropWhile_append_of_pos all, alone.1, alone.2]
  exact ⟨List.append_nil digits, rfl⟩

theorem wholePart_append
    {whole rest : List Char}
    (isWhole : IsWhole whole)
    (stop : NoDigit rest) :
    Json.wholePart (whole ++ rest) = some (whole, rest) := by
  rcases isWhole with rfl | ⟨c, more, rfl, noZero, all⟩
  · rfl
  · have digit := all c List.mem_cons_self
    have taken := takeWhile_digits (fun d member => all d (List.mem_cons_of_mem c member)) stop
    rw [List.cons_append, Json.wholePart]
    · simp [digit, taken]
    · exact noZero

theorem fractionPart_append
    {fraction exponent : List Char}
    (isFraction : IsFraction fraction)
    (isExponent : IsExponent exponent) :
    (Json.fractionPart (fraction ++ exponent)).2 = exponent := by
  rcases isFraction with rfl | ⟨digits, rfl, nonempty, all⟩
  · rcases isExponent with rfl | ⟨sign, digits, rfl, _⟩ <;> rfl
  · have taken := takeWhile_digits all isExponent.noDigit
    simp [Json.fractionPart, taken, nonempty]

theorem IsExponent.exponentPart_eq_nil {text : List Char} (exponent : IsExponent text) :
    (Json.exponentPart text).2 = [] := by
  rcases exponent with rfl | ⟨sign, digits, rfl, isSign, nonempty, all⟩
  · rfl
  · have taken := takeWhile_digits all noDigit_nil
    rw [List.append_nil] at taken
    rcases isSign with rfl | rfl <;> simp [Json.exponentPart, taken, nonempty]

/-- The grammar reads a decimal as a number. -/
theorem IsNumeral.isDecimal {text : List Char} (numeral : IsNumeral text) :
    TypeScript.isDecimal text = true := by
  obtain ⟨isWhole, isFraction, isExponent⟩ := numeral
  rw [TypeScript.isDecimal, wholePart_append isWhole (isFraction.noDigit_append isExponent)]
  simp only [fractionPart_append isFraction isExponent, isExponent.exponentPart_eq_nil,
    List.isEmpty_nil]

/-! ## Decimals are tokens -/

namespace Lexing

theorem lex_digits {digits : List Char} (all : AllDigits digits) (read rest : List Char) :
    lex (.number read) (digits ++ rest) = lex (.number (digits.reverse ++ read)) rest := by
  induction digits generalizing read with
  | nil => rfl
  | cons c digits hypothesis =>
      have goesOn : isNumberChar read c = true := by
        simp [isNumberChar, isNameChar, Char.isAlphanum, all c List.mem_cons_self]
      have others : AllDigits digits := fun d member => all d (List.mem_cons_of_mem c member)
      simp [advance, goesOn, hypothesis others]

theorem lex_fraction {read fraction rest : List Char} (isFraction : IsFraction fraction) :
    lex (.number read) (fraction ++ rest) = lex (.number (fraction.reverse ++ read)) rest := by
  rcases isFraction with rfl | ⟨digits, rfl, _, all⟩
  · rfl
  · have goesOn : isNumberChar read '.' = true := by simp [isNumberChar]
    simp [advance, goesOn, lex_digits all]

theorem lex_exponent {read exponent : List Char} (isExponent : IsExponent exponent) :
    lex (.number read) exponent = [.number (String.ofList (read.reverse ++ exponent))] := by
  rcases isExponent with rfl | ⟨sign, digits, rfl, isSign, _, all⟩
  · simp [finish]
  · have mark : isNumberChar read 'e' = true := by
      simp [isNumberChar, isNameChar, Char.isAlphanum, Char.isAlpha, Char.isLower]
    have goesOn : isNumberChar ('e' :: read) sign = true := by
      rcases isSign with rfl | rfl <;> simp [isNumberChar]
    have last := lex_digits all (sign :: 'e' :: read) []
    rw [List.append_nil] at last
    simp [advance, mark, goesOn, last, finish]

end Lexing

/-- A decimal holds nothing but digits, a dot, the letter of the exponent and its sign. -/
theorem IsNumeral.mem_cases {text : List Char} (numeral : IsNumeral text) {c : Char}
    (member : c ∈ text) : c.isDigit = true ∨ c ∈ ['.', 'e', '+', '-'] := by
  obtain ⟨isWhole, isFraction, isExponent⟩ := numeral
  simp only [List.mem_append] at member
  rcases member with inWhole | inFraction | inExponent
  · exact .inl (isWhole.allDigits c inWhole)
  · rcases isFraction with rfl | ⟨digits, rfl, _, all⟩
    · simp at inFraction
    · rcases List.mem_cons.mp inFraction with rfl | inDigits
      · exact .inr (by decide)
      · exact .inl (all c inDigits)
  · rcases isExponent with rfl | ⟨sign, digits, rfl, isSign, _, all⟩
    · simp at inExponent
    · simp only [List.mem_cons] at inExponent
      rcases inExponent with rfl | rfl | inDigits
      · exact .inr (by decide)
      · rcases isSign with rfl | rfl <;> exact .inr (by decide)
      · exact .inl (all c inDigits)

theorem IsNumeral.isPlain {text : List Char} (numeral : IsNumeral text) :
    text.all TypeScript.isPlain = true := by
  rw [List.all_eq_true]
  intro c member
  rcases numeral.mem_cases member with digit | mark
  · apply isPlain_of_isNameChar
    simp [isNameChar, Char.isAlphanum, digit]
  · have every : ['.', 'e', '+', '-'].all TypeScript.isPlain = true := rfl
    exact List.all_eq_true.mp every c mark

theorem IsNumeral.exists_digit {text : List Char} (numeral : IsNumeral text) :
    ∃ c ∈ text, c.isDigit = true := by
  obtain ⟨isWhole, _, _⟩ := numeral
  rcases isWhole with rfl | ⟨c, rest, rfl, _, all⟩
  · exact ⟨'0', List.mem_cons_self, rfl⟩
  · exact ⟨c, List.mem_cons_self, all c List.mem_cons_self⟩

/-- A decimal is one token. -/
theorem IsNumeral.spells {text : List Char} (numeral : IsNumeral text) :
    Spells text [.number (String.ofList text)] := by
  have plain := numeral.isPlain
  obtain ⟨isWhole, isFraction, isExponent⟩ := numeral
  rename_i whole fraction exponent
  have single :
      tokens (whole ++ (fraction ++ exponent)) =
        [.number (String.ofList (whole ++ (fraction ++ exponent)))] := by
    obtain ⟨c, rest, same, digit⟩ : ∃ c rest, whole = c :: rest ∧ c.isDigit = true := by
      rcases isWhole with rfl | ⟨c, rest, rfl, _, all⟩
      · exact ⟨'0', [], rfl, rfl⟩
      · exact ⟨c, rest, rfl, all c List.mem_cons_self⟩
    subst same
    have name : isNameChar c = true := by simp [isNameChar, Char.isAlphanum, digit]
    have others : AllDigits rest := fun d member =>
      isWhole.allDigits d (List.mem_cons_of_mem c member)
    simp only [tokens, List.cons_append, Lexing.lex_cons, Lexing.advance, Lexing.enter,
      isWhiteSpace_of_isNameChar name, digit, if_true, Bool.false_eq_true, if_false,
      Lexing.lex_digits others, Lexing.lex_fraction isFraction, Lexing.lex_exponent isExponent]
    simp
  rw [← single]
  exact spells_plain plain

/-! ## Numbers are written as decimals -/

/-- No leading zero is written. -/
theorem digits_pos {n : Nat} (positive : 0 < n) :
    ∃ c rest, Decimal.digits n = c :: rest ∧ c ≠ '0' := by
  unfold Decimal.digits
  induction n using Nat.strongRecOn with
  | _ n hypothesis =>
      rw [Nat.toDigits_eq_if (by decide)]
      split
      · rename_i small
        have every : ∀ m < 10, 0 < m → m.digitChar ≠ '0' := by decide
        exact ⟨n.digitChar, [], rfl, every n small positive⟩
      · rename_i large
        obtain ⟨c, rest, same, noZero⟩ := hypothesis (n / 10) (by omega) (by omega)
        exact ⟨c, rest ++ [(n % 10).digitChar], by rw [same]; rfl, noZero⟩

theorem isWhole_digits (n : Nat) : IsWhole (Decimal.digits n) := by
  rcases Nat.eq_zero_or_pos n with rfl | positive
  · exact .inl (Nat.toDigits_zero 10)
  · obtain ⟨c, rest, same, noZero⟩ := digits_pos positive
    exact .inr ⟨c, rest, same, noZero, allDigits_digits n⟩

/-- A natural number is written as a decimal. -/
theorem isNumeral_digits (n : Nat) : IsNumeral (Decimal.digits n) := by
  have numeral := IsNumeral.mk (isWhole_digits n) (.inl rfl) (.inl rfl)
  rwa [List.append_nil, List.append_nil] at numeral

theorem isExponent_exponentText (layout : Layout) (exponent : Int) :
    IsExponent (layout.exponentText exponent) := by
  refine .inr ⟨if exponent < 0 then '-' else '+', _, rfl, ?_, ?_, ?_⟩
  · split
    · exact .inr rfl
    · exact .inl rfl
  · exact List.append_ne_nil_of_right_ne_nil _ Nat.toDigits_ne_nil
  · exact (allDigits_replicate _).append (allDigits_digits _)

/-- Digits are a decimal also with a point, wherever it stands. -/
theorem isNumeral_positional
    {n : Nat}
    {lead : Int}
    (zero : n = 0 → lead = 0) :
    IsNumeral (Layout.positional (Decimal.digits n) lead) := by
  unfold Layout.positional
  split
  · have fraction :
        IsFraction ('.' :: (List.replicate (-lead - 1).toNat '0' ++ Decimal.digits n)) :=
      .inr ⟨_, rfl, List.append_ne_nil_of_right_ne_nil _ Nat.toDigits_ne_nil,
        (allDigits_replicate _).append (allDigits_digits n)⟩
    have numeral := IsNumeral.mk (.inl rfl) fraction (.inl rfl)
    rwa [List.append_nil] at numeral
  · dsimp only
    generalize found : lead.toNat + 1 = count
    have whole : IsWhole ((Decimal.digits n).take count ++
        List.replicate (count - ((Decimal.digits n).take count).length) '0') := by
      rcases Nat.eq_zero_or_pos n with rfl | positive
      · left
        have one : count = 1 := by rw [← found, zero rfl]; rfl
        rw [one]
        rfl
      · right
        obtain ⟨c, rest, same, noZero⟩ := digits_pos positive
        refine ⟨c, _, by rw [same, ← found]; rfl, noZero, ?_⟩
        refine AllDigits.append ?_ (allDigits_replicate _)
        intro d member
        exact allDigits_digits n d (List.mem_of_mem_take member)
    have fraction : IsFraction
        ('.' :: (if ((Decimal.digits n).drop count).isEmpty then ['0']
          else (Decimal.digits n).drop count)) := by
      refine .inr ⟨_, rfl, ?_, ?_⟩
      · split
        · simp
        · rename_i nonempty
          simpa using nonempty
      · split
        · exact allDigits_replicate 1
        · intro d member
          exact allDigits_digits n d (List.mem_of_mem_drop member)
    have numeral := IsNumeral.mk whole fraction (.inl rfl)
    rw [List.append_nil] at numeral
    exact numeral

/-- Digits are a decimal also with an exponent. -/
theorem isNumeral_scientific (layout : Layout) (n : Nat) (lead : Int) :
    IsNumeral (layout.scientific (Decimal.digits n) lead) := by
  have exponent := isExponent_exponentText layout lead
  have whole := isWhole_digits n
  unfold Layout.scientific
  dsimp only
  split
  · rename_i first second rest same
    rw [same] at whole
    have all := whole.allDigits
    have single : IsWhole [first] := by
      rcases whole with zero | ⟨c, more, same, noZero, _⟩
      · simp at zero
      · cases same
        refine .inr ⟨first, [], rfl, noZero, ?_⟩
        intro d member
        rw [List.mem_singleton.mp member]
        exact all first List.mem_cons_self
    have fraction : IsFraction ('.' :: second :: rest) :=
      .inr ⟨second :: rest, rfl, by simp, fun d member => all d (List.mem_cons_of_mem first member)⟩
    exact IsNumeral.mk single fraction exponent
  · exact IsNumeral.mk whole (.inl rfl) exponent

theorem isNumeral_numeralText
    (layout : Layout)
    {numeral : Numeral}
    (zero : numeral.significand = 0 → numeral.exponent = 0) :
    IsNumeral (layout.numeralText numeral) := by
  unfold Layout.numeralText
  dsimp only
  split
  · apply isNumeral_positional
    intro none
    rw [none, zero none]
    rfl
  · exact isNumeral_scientific layout _ _

/-- The point of a grid that stands for a positive number is not zero. -/
theorem gridPoint?_pos
    {x : Binary}
    {place : Int}
    {point : Nat}
    (positive : x.mantissa ≠ 0)
    (found : x.gridPoint? place = some point) :
    0 < point := by
  unfold Binary.gridPoint? at found
  extract_lets scaled inside below above toBelow toAbove at found
  have low : 0 < scaled.low := by
    have gap : x.gapBelow ≤ 2 := by
      unfold Binary.gapBelow
      split <;> omega
    have unit : 0 < 2 ^ (x.exponent - 2).toNat * 10 ^ (-place).toNat := by positivity
    exact Nat.mul_pos (by omega) unit
  -- Only points at or above the low end of the interval are inside.
  have positive_of_inside (candidate : Nat) (isInside : inside candidate = true) :
      0 < candidate := by
    rw [Nat.pos_iff_ne_zero]
    rintro rfl
    simp only [inside] at isInside
    split at isInside <;>
      simp only [Nat.zero_mul, Bool.and_eq_true, decide_eq_true_eq] at isInside <;> omega
  split at found
  · rename_i both
    rw [Bool.and_eq_true] at both
    have belowPositive := positive_of_inside below both.1
    have abovePositive := positive_of_inside above both.2
    split at found
    · exact Option.some.inj found ▸ belowPositive
    · split at found
      · exact Option.some.inj found ▸ abovePositive
      · split at found
        · exact Option.some.inj found ▸ belowPositive
        · exact Option.some.inj found ▸ abovePositive
  · split at found
    · rename_i isInside
      exact Option.some.inj found ▸ positive_of_inside below isInside
    · split at found
      · rename_i isInside
        exact Option.some.inj found ▸ positive_of_inside above isInside
      · contradiction

theorem normal_pos {significand : Nat} (positive : 0 < significand) (exponent : Int) :
    0 < (Numeral.normal significand exponent).significand := by
  induction significand using Nat.strongRecOn generalizing exponent with
  | _ significand hypothesis =>
      rw [Numeral.normal]
      split
      · exact hypothesis (significand / 10) (by omega) (by omega) _
      · exact positive

/-- The decimal of a number is zero only for the number zero. -/
theorem exponent_shortest
    {x : Binary}
    (zero : (shortest x).significand = 0) :
    (shortest x).exponent = 0 := by
  unfold shortest at zero ⊢
  split
  · rfl
  · rename_i positive
    rw [if_neg positive] at zero
    dsimp only at zero ⊢
    exfalso
    cases found : (List.range 17).findSome? fun (count : Nat) =>
        (x.gridPoint? (x.leadingPlace - count)).map fun point =>
          Numeral.normal point (x.leadingPlace - count) with
    | none =>
        rw [found] at zero
        exact positive zero
    | some numeral =>
        rw [found] at zero
        obtain ⟨count, _, given⟩ := List.exists_of_findSome?_eq_some found
        obtain ⟨point, isPoint, same⟩ := Option.map_eq_some_iff.mp given
        have significand : 0 < numeral.significand := by
          rw [← same]
          exact normal_pos (gridPoint?_pos positive isPoint) _
        exact Nat.ne_of_gt significand zero

/-- A finite float is written as a decimal. -/
theorem isNumeral_shortest (layout : Layout) (x : Binary) :
    IsNumeral (layout.numeralText (shortest x)) :=
  isNumeral_numeralText layout exponent_shortest

end TypeScript
end ApiTypings
