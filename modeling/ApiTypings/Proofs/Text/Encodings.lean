import ApiTypings.Proofs.Text.Percent

/-!
# Encodings of texts

A text can be written with percent escapes in many ways: every character stands as it is
or as the escapes of its bytes, and only the sign of an escape has to be escaped. Decoding
reads every one of these encodings as the text, since a run of ASCII characters holds all
bytes of a character that is escaped in it.
-/

namespace ApiTypings
namespace Text

/-! ## The bytes of a character -/

/-- A byte in the range that is asked for adds its last six bits. -/
theorem decodeTail_cons
    {low high : Nat}
    {byte : UInt8}
    (inRange : low ≤ byte.toNat ∧ byte.toNat ≤ high)
    (more bits taken : Nat)
    (rest : List UInt8) :
    decodeTail (more + 1) bits low high taken (byte :: rest) =
      decodeTail more (bits * 64 + byte.toNat % 64) 0x80 0xBF (taken + 1) rest := by
  rw [decodeTail, if_pos inRange]

theorem decodeTail_zero (bits low high taken : Nat) (rest : List UInt8) :
    decodeTail 0 bits low high taken rest = ⟨.ok (Char.ofNat bits), taken⟩ := by
  rw [decodeTail]

theorem decodeFrom_of_leadByte?
    {first : UInt8}
    {lead : LeadByte}
    (large : 0x80 ≤ first.toNat)
    (leads : leadByte? first.toNat = some lead)
    (rest : List UInt8) :
    decodeFrom first rest = decodeTail lead.more lead.bits lead.low lead.high 0 rest := by
  rw [decodeFrom, if_neg (Nat.not_lt.mpr large), leads]

theorem toNat_ofNat_of_lt {number : Nat} (small : number < 256) :
    (UInt8.ofNat number).toNat = number := by
  rw [UInt8.toNat_ofNat']
  exact Nat.mod_eq_of_lt small

/-- The range of the second byte keeps out characters that have a shorter form, and the
numbers that are no characters. -/
theorem leadByte?_three
    {v : Nat}
    (large : 0x800 ≤ v)
    (small : v < 0x10000)
    (valid : v < 0xD800 ∨ 0xDFFF < v) :
    ∃ low high, leadByte? (v / 4096 % 16 + 224) = some ⟨2, v / 4096, low, high⟩ ∧
      low ≤ v / 64 % 64 + 128 ∧ v / 64 % 64 + 128 ≤ high := by
  unfold leadByte?
  by_cases first : v / 4096 = 0
  · exact ⟨0xA0, 0xBF, by simp [first], by omega, by omega⟩
  · by_cases surrogate : v / 4096 = 13
    · exact ⟨0x80, 0x9F, by simp [surrogate], by omega, by omega⟩
    · refine ⟨0x80, 0xBF, ?_, by omega, by omega⟩
      have bits : v / 4096 % 16 + 224 - 224 = v / 4096 := by omega
      rw [if_neg (by omega), if_neg (by omega), if_neg (by omega), if_pos (by omega), bits]

theorem leadByte?_four
    {v : Nat}
    (large : 0x10000 ≤ v)
    (small : v < 0x110000) :
    ∃ low high, leadByte? (v / 262144 % 8 + 240) = some ⟨3, v / 262144, low, high⟩ ∧
      low ≤ v / 4096 % 64 + 128 ∧ v / 4096 % 64 + 128 ≤ high := by
  unfold leadByte?
  by_cases first : v / 262144 = 0
  · exact ⟨0x90, 0xBF, by simp [first], by omega, by omega⟩
  · by_cases last : v / 262144 = 4
    · exact ⟨0x80, 0x8F, by simp [last], by omega, by omega⟩
    · refine ⟨0x80, 0xBF, ?_, by omega, by omega⟩
      have bits : v / 262144 % 8 + 240 - 240 = v / 262144 := by omega
      rw [if_neg (by omega), if_neg (by omega), if_neg (by omega), if_neg (by omega),
        if_neg (by omega), if_pos (by omega), bits]

/-- The six bits of a byte that goes on with a character. -/
theorem toNat_continuation (x : Nat) : (UInt8.ofNat (x % 64 + 128)).toNat = x % 64 + 128 :=
  toNat_ofNat_of_lt (by omega)

theorem decodeTail_continuation (x more bits taken : Nat) (rest : List UInt8) :
    decodeTail (more + 1) bits 0x80 0xBF taken (UInt8.ofNat (x % 64 + 128) :: rest) =
      decodeTail more (bits * 64 + x % 64) 0x80 0xBF (taken + 1) rest := by
  have value : (x % 64 + 128) % 64 = x % 64 := by omega
  rw [decodeTail_cons, toNat_continuation, value]
  rw [toNat_continuation]
  omega

section Sizes

variable {v : Nat} (rest : List UInt8)

theorem decodeFrom_two (large : 0x80 ≤ v) (small : v < 0x800) :
    decodeFrom (UInt8.ofNat (v / 64 % 32 + 192)) (UInt8.ofNat (v % 64 + 128) :: rest) =
      ⟨.ok (Char.ofNat v), 1⟩ := by
  have first : (UInt8.ofNat (v / 64 % 32 + 192)).toNat = v / 64 % 32 + 192 :=
    toNat_ofNat_of_lt (by omega)
  have leads : leadByte? (UInt8.ofNat (v / 64 % 32 + 192)).toNat =
      some ⟨1, v / 64, 0x80, 0xBF⟩ := by
    have bits : v / 64 % 32 + 192 - 192 = v / 64 := by omega
    rw [first, leadByte?, if_pos (by omega), bits]
  have whole : v / 64 * 64 + v % 64 = v := by omega
  rw [decodeFrom_of_leadByte? (by omega) leads, decodeTail_continuation, decodeTail_zero, whole]

theorem decodeFrom_three
    (large : 0x800 ≤ v)
    (small : v < 0x10000)
    (valid : v < 0xD800 ∨ 0xDFFF < v) :
    decodeFrom (UInt8.ofNat (v / 4096 % 16 + 224))
        (UInt8.ofNat (v / 64 % 64 + 128) :: UInt8.ofNat (v % 64 + 128) :: rest) =
      ⟨.ok (Char.ofNat v), 2⟩ := by
  have first : (UInt8.ofNat (v / 4096 % 16 + 224)).toNat = v / 4096 % 16 + 224 :=
    toNat_ofNat_of_lt (by omega)
  obtain ⟨low, high, leads, inRange⟩ := leadByte?_three large small valid
  rw [← first] at leads
  rw [← toNat_continuation] at inRange
  have whole : (v / 4096 * 64 + (v / 64 % 64 + 128) % 64) * 64 + v % 64 = v := by omega
  rw [decodeFrom_of_leadByte? (by omega) leads, decodeTail_cons inRange,
    decodeTail_continuation, decodeTail_zero, toNat_continuation, whole]

theorem decodeFrom_four (large : 0x10000 ≤ v) (small : v < 0x110000) :
    decodeFrom (UInt8.ofNat (v / 262144 % 8 + 240))
        (UInt8.ofNat (v / 4096 % 64 + 128) :: UInt8.ofNat (v / 64 % 64 + 128) ::
          UInt8.ofNat (v % 64 + 128) :: rest) =
      ⟨.ok (Char.ofNat v), 3⟩ := by
  have first : (UInt8.ofNat (v / 262144 % 8 + 240)).toNat = v / 262144 % 8 + 240 :=
    toNat_ofNat_of_lt (by omega)
  obtain ⟨low, high, leads, inRange⟩ := leadByte?_four large small
  rw [← first] at leads
  rw [← toNat_continuation] at inRange
  have whole : ((v / 262144 * 64 + (v / 4096 % 64 + 128) % 64) * 64 + v / 64 % 64) * 64 + v % 64 =
      v := by
    omega
  rw [decodeFrom_of_leadByte? (by omega) leads, decodeTail_cons inRange,
    decodeTail_continuation, decodeTail_continuation, decodeTail_zero, toNat_continuation, whole]

end Sizes

/-- The bytes of a character are decoded to the character. -/
theorem decodeFrom_utf8EncodeChar (c : Char) (rest : List UInt8) :
    ∃ first others, String.utf8EncodeChar c = first :: others ∧
      decodeFrom first (others ++ rest) = ⟨.ok c, others.length⟩ := by
  have valid : c.toNat < 0xD800 ∨ 0xDFFF < c.toNat ∧ c.toNat < 0x110000 := c.valid
  have two := @decodeFrom_two c.toNat rest
  have three := @decodeFrom_three c.toNat rest
  have four := @decodeFrom_four c.toNat rest
  rw [Char.ofNat_toNat] at two three four
  have number : c.val.toNat = c.toNat := rfl
  simp only [String.utf8EncodeChar, number]
  split
  · have first : (UInt8.ofNat c.toNat).toNat = c.toNat := toNat_ofNat_of_lt (by omega)
    refine ⟨_, _, rfl, ?_⟩
    rw [decodeFrom, first, if_pos (by omega), Char.ofNat_toNat]
    rfl
  · split
    · exact ⟨_, _, rfl, two (by omega) (by omega)⟩
    · split
      · exact ⟨_, _, rfl, three (by omega) (by omega) (by omega)⟩
      · exact ⟨_, _, rfl, four (by omega) (by omega)⟩

/-- The bytes of a text are decoded to the text. -/
theorem decodeLossy_flatMap_utf8EncodeChar (text : List Char) :
    decodeLossy (text.flatMap String.utf8EncodeChar) = text := by
  induction text with
  | nil => rw [List.flatMap_nil, decodeLossy]
  | cons c rest hypothesis =>
      obtain ⟨first, others, bytes, decoded⟩ :=
        decodeFrom_utf8EncodeChar c (rest.flatMap String.utf8EncodeChar)
      rw [List.flatMap_cons, bytes, List.cons_append, decodeLossy]
      simp only [decoded, List.drop_left, hypothesis]

/-! ## Escapes -/

/-- A character is a digit of base sixteen with the given value, in either case. -/
def IsHexDigitOf (value : Nat) (c : Char) : Prop :=
  c = Nat.digitChar value ∨ c = (Nat.digitChar value).toUpper

/-- A text escapes bytes one by one. -/
inductive Escapes : List UInt8 → List Char → Prop
  | nil : Escapes [] []
  | cons
      {byte : UInt8}
      {a b : Char}
      {bytes : List UInt8}
      {written : List Char}
      (high : IsHexDigitOf (byte.toNat / 16) a)
      (low : IsHexDigitOf (byte.toNat % 16) b)
      (rest : Escapes bytes written) :
      Escapes (byte :: bytes) ('%' :: a :: b :: written)

/-- A text is written character by character, each one as it is or by the escapes of its
bytes. The sign of an escape is escaped. -/
inductive Encodes : List Char → List Char → Prop
  | nil : Encodes [] []
  | verbatim
      {c : Char}
      {text written : List Char}
      (noSign : c ≠ '%')
      (rest : Encodes text written) :
      Encodes (c :: text) (c :: written)
  | escaped
      {c : Char}
      {text front written : List Char}
      (escapes : Escapes (String.utf8EncodeChar c) front)
      (rest : Encodes text written) :
      Encodes (c :: text) (front ++ written)

theorem IsHexDigitOf.spec
    {value : Nat}
    {c : Char}
    (digit : IsHexDigitOf value c)
    (small : value < 16) :
    hexValue? c = some value ∧ isAscii c = true ∧ c ≠ '/' := by
  have each : ∀ value < 16, (hexValue? (Nat.digitChar value) = some value ∧
        isAscii (Nat.digitChar value) = true ∧ Nat.digitChar value ≠ '/') ∧
      hexValue? (Nat.digitChar value).toUpper = some value ∧
        isAscii (Nat.digitChar value).toUpper = true ∧ (Nat.digitChar value).toUpper ≠ '/' := by
    decide
  rcases digit with rfl | rfl
  · exact (each value small).1
  · exact (each value small).2

namespace Escapes

variable {bytes : List UInt8} {written : List Char}

/-- Escapes are read as their bytes, whatever is behind them. -/
theorem percentBytes_append (escapes : Escapes bytes written) (behind : List Char) :
    percentBytes (written ++ behind) = bytes ++ percentBytes behind := by
  induction escapes with
  | nil => rfl
  | @cons byte a b bytes written high low _ hypothesis =>
      have bound := byte.toNat_lt
      have highValue := (high.spec (by omega)).1
      have lowValue := (low.spec (by omega)).1
      have whole : UInt8.ofNat (byte.toNat / 16 * 16 + byte.toNat % 16) = byte := by
        rw [Nat.div_add_mod', UInt8.ofNat_toNat]
      simp only [List.cons_append, percentBytes, highValue, lowValue, whole, hypothesis]

theorem all_isAscii (escapes : Escapes bytes written) : written.all isAscii = true := by
  induction escapes with
  | nil => rfl
  | @cons byte a b _ _ high low _ hypothesis =>
      have bound := byte.toNat_lt
      have sign : isAscii '%' = true := rfl
      simp [sign, (high.spec (by omega)).2.1, (low.spec (by omega)).2.1, hypothesis]

theorem not_mem (escapes : Escapes bytes written) : '/' ∉ written := by
  induction escapes with
  | nil => simp
  | @cons byte a b _ _ high low _ hypothesis =>
      have bound := byte.toNat_lt
      have noHigh := (high.spec (by omega)).2.2
      have noLow := (low.spec (by omega)).2.2
      simp [Ne.symm noHigh, Ne.symm noLow, hypothesis]

end Escapes

/-! ## Encodings -/

theorem utf8EncodeChar_of_isAscii {c : Char} (ascii : isAscii c = true) :
    String.utf8EncodeChar c = [asciiByte c] := by
  have small : c.val.toNat ≤ 127 := Nat.le_of_lt_succ (of_decide_eq_true ascii)
  simp only [String.utf8EncodeChar, if_pos small]
  rfl

theorem percentBytes_cons_of_ne {c : Char} (noSign : c ≠ '%') (rest : List Char) :
    percentBytes (c :: rest) = asciiByte c :: percentBytes rest := by
  rw [percentBytes]
  · rfl
  · intro _ _ _ sign
    exact absurd sign noSign

namespace Encodes

variable {text written : List Char}

theorem append
    (encodes : Encodes text written)
    {others writtenOthers : List Char}
    (behind : Encodes others writtenOthers) :
    Encodes (text ++ others) (written ++ writtenOthers) := by
  induction encodes with
  | nil => exact behind
  | verbatim noSign _ hypothesis => exact .verbatim noSign hypothesis
  | escaped escapes _ hypothesis =>
      rw [List.append_assoc]
      exact .escaped escapes hypothesis

theorem ne_nil (encodes : Encodes text written) (filled : text ≠ []) : written ≠ [] := by
  cases encodes with
  | nil => contradiction
  | verbatim => simp
  | @escaped c _ _ _ escapes _ =>
      obtain ⟨first, others, bytes, _⟩ := decodeFrom_utf8EncodeChar c []
      rw [bytes] at escapes
      cases escapes
      simp

theorem not_mem (encodes : Encodes text written) (single : '/' ∉ text) : '/' ∉ written := by
  induction encodes with
  | nil => exact single
  | verbatim _ _ hypothesis =>
      rw [List.mem_cons, not_or] at single ⊢
      exact ⟨single.1, hypothesis single.2⟩
  | escaped escapes _ hypothesis =>
      rw [List.mem_cons, not_or] at single
      rw [List.mem_append, not_or]
      exact ⟨escapes.not_mem, hypothesis single.2⟩

/-- Within ASCII, an encoding is read as the bytes of the text. -/
theorem percentBytes_eq (encodes : Encodes text written) (ascii : written.all isAscii = true) :
    percentBytes written = text.flatMap String.utf8EncodeChar := by
  induction encodes with
  | nil => rfl
  | verbatim noSign _ hypothesis =>
      rw [List.all_cons, Bool.and_eq_true] at ascii
      rw [percentBytes_cons_of_ne noSign, hypothesis ascii.2, List.flatMap_cons,
        utf8EncodeChar_of_isAscii ascii.1, List.singleton_append]
  | escaped escapes _ hypothesis =>
      rw [List.all_append, Bool.and_eq_true] at ascii
      rw [escapes.percentBytes_append, hypothesis ascii.2, List.flatMap_cons]

end Encodes

theorem percentDecodeFrom_append
    {front : List Char}
    (ascii : front.all isAscii = true)
    (run behind : List Char) :
    percentDecodeFrom run (front ++ behind) = percentDecodeFrom (front.reverse ++ run) behind := by
  induction front generalizing run with
  | nil => rfl
  | cons c rest hypothesis =>
      rw [List.all_cons, Bool.and_eq_true] at ascii
      rw [List.cons_append, percentDecodeFrom, if_pos ascii.1, hypothesis ascii.2,
        List.reverse_cons, List.append_assoc, List.singleton_append]

/-- What is left of an encoding is decoded behind the run that was read before. The run is
an encoding of its own: it never ends within the escapes of a character. -/
theorem percentDecodeFrom_of_encodes
    {before run : List Char}
    (encodesRun : Encodes before run)
    (ascii : run.all isAscii = true)
    {text written : List Char}
    (encodes : Encodes text written) :
    percentDecodeFrom run.reverse written = before ++ text := by
  have decoded {before run : List Char} (encodesRun : Encodes before run)
      (ascii : run.all isAscii = true) :
      decodeLossy (percentBytes run.reverse.reverse) = before := by
    rw [List.reverse_reverse, encodesRun.percentBytes_eq ascii,
      decodeLossy_flatMap_utf8EncodeChar]
  induction encodes generalizing before run with
  | nil =>
      rw [List.append_nil]
      exact decoded encodesRun ascii
  | @verbatim c text written noSign _ hypothesis =>
      by_cases inAscii : isAscii c = true
      · have longer : Encodes (before ++ [c]) (run ++ [c]) :=
          encodesRun.append (.verbatim noSign .nil)
        have asciiLonger : (run ++ [c]).all isAscii = true := by simp [ascii, inAscii]
        have behind := hypothesis longer asciiLonger
        rw [List.reverse_append, List.append_assoc] at behind
        rw [percentDecodeFrom, if_pos inAscii]
        exact behind
      · rw [percentDecodeFrom, if_neg inAscii, decoded encodesRun ascii]
        have behind := hypothesis .nil rfl
        rw [List.reverse_nil, List.nil_append] at behind
        rw [behind]
  | @escaped c text front written escapes _ hypothesis =>
      have longer : Encodes (before ++ [c]) (run ++ front) := by
        have single : Encodes [c] (front ++ []) := .escaped escapes .nil
        rw [List.append_nil] at single
        exact encodesRun.append single
      have asciiLonger : (run ++ front).all isAscii = true := by
        simp [ascii, escapes.all_isAscii]
      have behind := hypothesis longer asciiLonger
      rw [List.reverse_append, List.append_assoc] at behind
      rw [percentDecodeFrom_append escapes.all_isAscii]
      exact behind

/-- Every encoding of a text is decoded to the text. -/
theorem percentDecode_of_encodes {text written : List Char} (encodes : Encodes text written) :
    percentDecode written = text :=
  percentDecodeFrom_of_encodes .nil rfl encodes

end Text
end ApiTypings
