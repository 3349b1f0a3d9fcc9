import ApiTypings.Text.Percent
import Mathlib

/-!
# Texts with percent escapes

Decoding leaves a text as it is exactly if there is no escape in it. That it leaves
a text without escapes alone is an induction along the runs of ASCII characters. That
it changes every other text is shown by a weight that each escape makes smaller.
-/

namespace ApiTypings
namespace Text

/-- Whether a text starts with a percent escape. -/
def startsEscape : List Char → Bool
  | '%' :: a :: b :: _ => isHexDigit a && isHexDigit b
  | _ => false

/-- Whether there is a percent escape in a text. -/
def hasEscape : List Char → Bool
  | [] => false
  | c :: rest => startsEscape (c :: rest) || hasEscape rest

theorem startsEscape_of_ne {c : Char} (other : c ≠ '%') (rest : List Char) :
    startsEscape (c :: rest) = false := by
  unfold startsEscape
  split
  · rename_i same
    exact absurd (List.cons.inj same).1 other
  · rfl

theorem hasEscape_cons_of_ne {c : Char} (other : c ≠ '%') (rest : List Char) :
    hasEscape (c :: rest) = hasEscape rest := by
  rw [hasEscape, startsEscape_of_ne other, Bool.false_or]

/-- A character that is no part of an escape parts a text. -/
theorem hasEscape_append_cons
    {c : Char}
    (noSign : c ≠ '%')
    (noDigit : isHexDigit c = false)
    (front behind : List Char) :
    hasEscape (front ++ c :: behind) = (hasEscape front || hasEscape behind) := by
  induction front with
  | nil => exact hasEscape_cons_of_ne noSign behind
  | cons first rest hypothesis =>
      have starts : startsEscape (first :: rest ++ c :: behind) = startsEscape (first :: rest) := by
        by_cases sign : first = '%'
        · subst sign
          match rest with
          | [] => cases behind <;> simp [startsEscape, noDigit]
          | [one] => simp [startsEscape, noDigit]
          | one :: two :: others => rfl
        · rw [List.cons_append, startsEscape_of_ne sign, startsEscape_of_ne sign]
      rw [List.cons_append] at starts ⊢
      rw [hasEscape, hasEscape, hypothesis, starts, Bool.or_assoc]

/-! ## Texts without escapes -/

/-- The byte of an ASCII character. -/
def asciiByte (c : Char) : UInt8 :=
  UInt8.ofNat c.toNat

theorem toNat_asciiByte {c : Char} (ascii : isAscii c = true) : (asciiByte c).toNat = c.toNat := by
  have small : c.toNat < 0x80 := of_decide_eq_true ascii
  rw [asciiByte, UInt8.toNat_ofNat']
  exact Nat.mod_eq_of_lt (by omega)

theorem percentBytes_eq_map {text : List Char} (plain : hasEscape text = false) :
    percentBytes text = text.map asciiByte := by
  fun_induction percentBytes text with
  | case1 a b rest high low lowDigit highDigit _ =>
      have escape : startsEscape ('%' :: a :: b :: rest) = true := by
        simp [startsEscape, isHexDigit, highDigit, lowDigit]
      rw [hasEscape, escape] at plain
      contradiction
  | case2 a b rest _ hypothesis =>
      rw [hasEscape, Bool.or_eq_false_iff] at plain
      rw [hypothesis plain.2]
      rfl
  | case3 c rest _ hypothesis =>
      rw [hasEscape, Bool.or_eq_false_iff] at plain
      rw [hypothesis plain.2]
      rfl
  | case4 => rfl

theorem decodeLossy_cons_ascii {byte : UInt8} (ascii : byte.toNat < 0x80) (rest : List UInt8) :
    decodeLossy (byte :: rest) = Char.ofNat byte.toNat :: decodeLossy rest := by
  rw [decodeLossy]
  simp only [decodeFrom, if_pos ascii, List.drop_zero]

theorem decodeLossy_map_asciiByte {text : List Char} (ascii : text.all isAscii = true) :
    decodeLossy (text.map asciiByte) = text := by
  induction text with
  | nil => rw [List.map_nil, decodeLossy]
  | cons c rest hypothesis =>
      rw [List.all_cons, Bool.and_eq_true] at ascii
      have same := toNat_asciiByte ascii.1
      have small : (asciiByte c).toNat < 0x80 := by
        rw [same]
        exact of_decide_eq_true ascii.1
      rw [List.map_cons, decodeLossy_cons_ascii small, hypothesis ascii.2, same, Char.ofNat_toNat]

/-- No part of an escape is outside of ASCII. -/
theorem not_escape_of_not_ascii {c : Char} (foreign : ¬ isAscii c = true) :
    c ≠ '%' ∧ isHexDigit c = false := by
  constructor
  · rintro rfl
    exact foreign rfl
  · rw [isHexDigit, Option.isSome_eq_false_iff, Option.isNone_iff_eq_none]
    have large : 0x80 ≤ c.toNat := by
      simpa [isAscii] using foreign
    have beyond (last : Char) (small : last.toNat < 0x80) : ¬ c ≤ last := by
      intro below
      have : c.toNat ≤ last.toNat := below
      omega
    have noDigit : c.isDigit = false := by
      rw [Bool.eq_false_iff]
      intro digit
      have range : c.toNat ≤ 57 := by
        simp only [Char.isDigit, Bool.and_eq_true, decide_eq_true_eq] at digit
        exact digit.2
      omega
    simp [hexValue?, noDigit, beyond 'f' (by decide), beyond 'F' (by decide)]

theorem percentDecodeFrom_eq
    {run text : List Char}
    (ascii : run.all isAscii = true)
    (plain : hasEscape (run.reverse ++ text) = false) :
    percentDecodeFrom run text = run.reverse ++ text := by
  have decoded {run : List Char} (ascii : run.all isAscii = true)
      (plain : hasEscape run.reverse = false) :
      decodeLossy (percentBytes run.reverse) = run.reverse := by
    rw [percentBytes_eq_map plain]
    apply decodeLossy_map_asciiByte
    rw [List.all_reverse]
    exact ascii
  induction text generalizing run with
  | nil =>
      rw [List.append_nil] at plain ⊢
      exact decoded ascii plain
  | cons c rest hypothesis =>
      unfold percentDecodeFrom
      split
      · rename_i inAscii
        have longer : (c :: run).reverse ++ rest = run.reverse ++ c :: rest := by simp
        rw [hypothesis, longer]
        · rw [List.all_cons, inAscii, ascii]
          rfl
        · rw [longer]
          exact plain
      · rename_i foreign
        obtain ⟨noSign, noDigit⟩ := not_escape_of_not_ascii foreign
        rw [hasEscape_append_cons noSign noDigit, Bool.or_eq_false_iff] at plain
        have behind : percentDecodeFrom [] rest = rest := @hypothesis [] rfl plain.2
        rw [decoded ascii plain.1, behind]

/-- A text without escapes is its own decoding. -/
theorem percentDecode_eq_self {text : List Char} (plain : hasEscape text = false) :
    percentDecode text = text :=
  percentDecodeFrom_eq rfl plain

theorem percentBytes_ne_nil {text : List Char} (filled : text ≠ []) : percentBytes text ≠ [] := by
  fun_cases percentBytes text with
  | case4 => contradiction
  | _ => simp

theorem percentDecodeFrom_ne_nil
    {run text : List Char}
    (filled : run ≠ [] ∨ text ≠ []) :
    percentDecodeFrom run text ≠ [] := by
  induction text generalizing run with
  | nil =>
      have bytes : percentBytes run.reverse ≠ [] := by
        apply percentBytes_ne_nil
        simpa using filled
      unfold percentDecodeFrom
      match percentBytes run.reverse, bytes with
      | first :: rest, _ =>
          rw [decodeLossy]
          exact List.cons_ne_nil _ _
  | cons c rest hypothesis =>
      unfold percentDecodeFrom
      split
      · exact hypothesis (.inl (List.cons_ne_nil c run))
      · exact List.append_ne_nil_of_right_ne_nil _ (List.cons_ne_nil _ _)

/-! ## Texts with escapes -/

/-- The weight of a character. The sign of an escape is heavier than what most
escapes stand for; the marks and digits of the escapes of a pointer have none. -/
def weight (c : Char) : Nat :=
  if c = '~' ∨ c = '/' ∨ c = '0' ∨ c = '1' then 0 else if c = '%' then 2 else 1

/-- The weight of a text. -/
def totalWeight (text : List Char) : Nat :=
  (text.map weight).sum

/-- The weight of a byte. One that is not in ASCII is as heavy as a character can
be. -/
def byteWeight (byte : UInt8) : Nat :=
  if byte.toNat < 0x80 then weight (Char.ofNat byte.toNat) else 2

theorem totalWeight_cons (c : Char) (rest : List Char) :
    totalWeight (c :: rest) = weight c + totalWeight rest := rfl

theorem totalWeight_append (front behind : List Char) :
    totalWeight (front ++ behind) = totalWeight front + totalWeight behind := by
  rw [totalWeight, List.map_append, List.sum_append]
  rfl

theorem weight_le_two (c : Char) : weight c ≤ 2 := by
  unfold weight
  split
  · omega
  · split <;> omega

theorem byteWeight_asciiByte {c : Char} (ascii : isAscii c = true) :
    byteWeight (asciiByte c) = weight c := by
  have small : c.toNat < 0x80 := of_decide_eq_true ascii
  rw [byteWeight, toNat_asciiByte ascii, if_pos small, Char.ofNat_toNat]

theorem weight_le_one {c : Char} (other : c ≠ '%') : weight c ≤ 1 := by
  unfold weight
  split
  · omega
  · rfl

theorem byteWeight_le_two (byte : UInt8) : byteWeight byte ≤ 2 := by
  unfold byteWeight
  split
  · exact weight_le_two _
  · omega

theorem hexValue?_lt {c : Char} {value : Nat} (digit : hexValue? c = some value) : value < 16 := by
  unfold hexValue? at digit
  split at digit
  · rename_i decimal
    simp only [Char.isDigit, Bool.and_eq_true, decide_eq_true_eq] at decimal
    have last : c.toNat ≤ 57 := decimal.2
    have zero : '0'.toNat = 48 := rfl
    cases digit
    omega
  · split at digit
    · rename_i small
      have last : c.toNat ≤ 102 := small.2
      have first : 'a'.toNat = 97 := rfl
      cases digit
      omega
    · split at digit
      · rename_i capital
        have last : c.toNat ≤ 70 := capital.2
        have first : 'A'.toNat = 65 := rfl
        cases digit
        omega
      · contradiction

/-- A digit of an escape that stands for more than one is not without weight. -/
theorem weight_pos_of_hexValue?
    {c : Char}
    {value : Nat}
    (digit : hexValue? c = some value)
    (large : 2 ≤ value) :
    0 < weight c := by
  have zero : hexValue? '0' = some 0 := rfl
  have one : hexValue? '1' = some 1 := rfl
  unfold weight
  split
  · rename_i marks
    rcases marks with rfl | rfl | rfl | rfl
    · contradiction
    · contradiction
    · rw [zero, Option.some.injEq] at digit
      omega
    · rw [one, Option.some.injEq] at digit
      omega
  · split <;> omega

/-- What an escape stands for is lighter than the escape. -/
theorem byteWeight_lt_of_escape
    {a b : Char}
    {high low : Nat}
    (highDigit : hexValue? a = some high)
    (lowDigit : hexValue? b = some low) :
    byteWeight (UInt8.ofNat (high * 16 + low)) < weight '%' + weight a + weight b := by
  have sign : weight '%' = 2 := rfl
  by_cases large : 2 ≤ high
  · have digit := weight_pos_of_hexValue? highDigit large
    have bound := byteWeight_le_two (UInt8.ofNat (high * 16 + low))
    omega
  · have lowBound := hexValue?_lt lowDigit
    have value : (UInt8.ofNat (high * 16 + low)).toNat = high * 16 + low := by
      rw [UInt8.toNat_ofNat']
      exact Nat.mod_eq_of_lt (by omega)
    have bound : byteWeight (UInt8.ofNat (high * 16 + low)) ≤ 1 := by
      rw [byteWeight, value, if_pos (by omega)]
      apply weight_le_one
      intro same
      have number := congrArg Char.toNat same
      have valid : (high * 16 + low).isValidChar := .inl (by omega)
      rw [Char.toNat_ofNat, if_pos valid] at number
      have percent : '%'.toNat = 37 := rfl
      omega
    omega

/-- Bytes get no heavier when they are decoded. -/
theorem totalWeight_decodeLossy_le (bytes : List UInt8) :
    totalWeight (decodeLossy bytes) ≤ (bytes.map byteWeight).sum := by
  fun_induction decodeLossy bytes with
  | case1 => exact Nat.le_refl 0
  | case2 first rest decoded char hypothesis =>
      have dropped : ((rest.drop decoded.more).map byteWeight).sum ≤ (rest.map byteWeight).sum := by
        rw [List.map_drop]
        exact (List.drop_sublist _ _).sum_le_sum (by simp)
      have single : weight char ≤ byteWeight first := by
        unfold byteWeight
        split
        · rename_i ascii
          have same : char = Char.ofNat first.toNat := by
            simp only [char, decoded, decodeFrom, if_pos ascii]
          rw [same]
        · exact weight_le_two char
      rw [totalWeight_cons, List.map_cons, List.sum_cons]
      omega

/-- An escape makes the bytes of an ASCII text lighter than the text. -/
theorem sum_percentBytes_add_le {text : List Char} (ascii : text.all isAscii = true) :
    ((percentBytes text).map byteWeight).sum + (hasEscape text).toNat ≤ totalWeight text := by
  fun_induction percentBytes text with
  | case1 a b rest high low lowDigit highDigit hypothesis =>
      simp only [List.all_cons, Bool.and_eq_true] at ascii
      have lighter := byteWeight_lt_of_escape highDigit lowDigit
      have behind := hypothesis ascii.2.2.2
      have bound := Bool.toNat_le (hasEscape ('%' :: a :: b :: rest))
      rw [List.map_cons, List.sum_cons, totalWeight_cons, totalWeight_cons, totalWeight_cons]
      omega
  | case2 a b rest noDigits hypothesis =>
      rw [List.all_cons, Bool.and_eq_true] at ascii
      have starts : startsEscape ('%' :: a :: b :: rest) = false := by
        rw [Bool.eq_false_iff]
        intro escape
        simp only [startsEscape, isHexDigit, Bool.and_eq_true, Option.isSome_iff_exists] at escape
        obtain ⟨⟨high, highDigit⟩, low, lowDigit⟩ := escape
        exact noDigits high low highDigit lowDigit
      have sign : byteWeight (UInt8.ofNat '%'.toNat) = weight '%' := byteWeight_asciiByte ascii.1
      have behind := hypothesis ascii.2
      rw [hasEscape, starts, Bool.false_or, List.map_cons, List.sum_cons, sign, totalWeight_cons]
      omega
  | case3 c rest other hypothesis =>
      rw [List.all_cons, Bool.and_eq_true] at ascii
      have starts : startsEscape (c :: rest) = false := by
        unfold startsEscape
        split
        · rename_i a b behind same
          obtain ⟨sign, two⟩ := List.cons.inj same
          exact absurd two (other a b behind sign)
        · rfl
      have single : byteWeight (UInt8.ofNat c.toNat) = weight c := byteWeight_asciiByte ascii.1
      have behind := hypothesis ascii.2
      rw [hasEscape, starts, Bool.false_or, List.map_cons, List.sum_cons, single, totalWeight_cons]
      omega
  | case4 => exact Nat.le_refl 0

/-- An escape makes the decoding of a text lighter than the text. -/
theorem totalWeight_percentDecodeFrom_add_le
    {run : List Char}
    (ascii : run.all isAscii = true)
    (text : List Char) :
    totalWeight (percentDecodeFrom run text) + (hasEscape (run.reverse ++ text)).toNat ≤
      totalWeight (run.reverse ++ text) := by
  have decoded {run : List Char} (ascii : run.all isAscii = true) :
      totalWeight (decodeLossy (percentBytes run.reverse)) + (hasEscape run.reverse).toNat ≤
        totalWeight run.reverse := by
    have bytes := totalWeight_decodeLossy_le (percentBytes run.reverse)
    have reversed : run.reverse.all isAscii = true := by rwa [List.all_reverse]
    have text := sum_percentBytes_add_le reversed
    omega
  induction text generalizing run with
  | nil =>
      rw [List.append_nil]
      exact decoded ascii
  | cons c rest hypothesis =>
      unfold percentDecodeFrom
      split
      · rename_i inAscii
        have longer : run.reverse ++ c :: rest = (c :: run).reverse ++ rest := by simp
        rw [longer]
        apply hypothesis
        rw [List.all_cons, inAscii, ascii]
        rfl
      · rename_i foreign
        obtain ⟨noSign, noDigit⟩ := not_escape_of_not_ascii foreign
        have front := decoded ascii
        have behind := @hypothesis [] rfl
        rw [List.reverse_nil, List.nil_append] at behind
        rw [hasEscape_append_cons noSign noDigit, totalWeight_append, totalWeight_append,
          totalWeight_cons, totalWeight_cons]
        have either : (hasEscape run.reverse || hasEscape rest).toNat ≤
            (hasEscape run.reverse).toNat + (hasEscape rest).toNat := by
          cases hasEscape run.reverse <;> cases hasEscape rest <;> decide
        omega

/-- Decoding makes a text with escapes lighter. -/
theorem totalWeight_percentDecode_lt {text : List Char} (escaped : hasEscape text = true) :
    totalWeight (percentDecode text) < totalWeight text := by
  have lighter := @totalWeight_percentDecodeFrom_add_le [] rfl text
  rw [List.reverse_nil, List.nil_append, escaped] at lighter
  exact lighter

end Text
end ApiTypings
