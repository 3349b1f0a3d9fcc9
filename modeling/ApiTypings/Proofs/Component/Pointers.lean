import ApiTypings.Component.Catalog
import ApiTypings.Proofs.Outcome
import ApiTypings.Proofs.Text.Percent

/-!
# Canonical spellings

The canonical spelling of a pointer escapes its name so that it is one segment. It
does not escape what looks like a percent escape, and reading decodes percent escapes
first. So a canonical spelling spells its own pointer exactly if there is no percent
escape in the name.
-/

namespace ApiTypings
namespace Component

open Text

/-! ## Segments -/

theorem encodeSegment_cons_of_ne
    {c : Char}
    (noTilde : c ≠ '~')
    (noSlash : c ≠ '/')
    (rest : List Char) :
    encodeSegment (c :: rest) = c :: encodeSegment rest := by
  rw [encodeSegment]
  · exact noTilde
  · exact noSlash

theorem unescapeTilde_cons_of_ne
    (digit char : Char)
    {c : Char}
    (noTilde : c ≠ '~')
    (rest : List Char) :
    unescapeTilde digit char (c :: rest) = c :: unescapeTilde digit char rest := by
  rw [unescapeTilde]
  intro _ _ tilde
  exact absurd tilde noTilde

theorem unescapeTilde_escape (digit char : Char) (rest : List Char) :
    unescapeTilde digit char ('~' :: digit :: rest) = char :: unescapeTilde digit char rest := by
  rw [unescapeTilde, if_pos rfl]

/-- Undoing the escapes of a segment gives its name. -/
theorem unescapeTilde_encodeSegment (name : List Char) :
    unescapeTilde '0' '~' (unescapeTilde '1' '/' (encodeSegment name)) = name := by
  fun_induction encodeSegment name with
  | case1 => rfl
  | case2 rest hypothesis =>
      -- The digit after this `~` is not the one that stands for `/`.
      have kept : unescapeTilde '1' '/' ('~' :: '0' :: encodeSegment rest) =
          '~' :: '0' :: unescapeTilde '1' '/' (encodeSegment rest) := by
        rw [unescapeTilde, if_neg (by decide), unescapeTilde_cons_of_ne _ _ (by decide)]
      rw [kept, unescapeTilde_escape, hypothesis]
  | case3 rest hypothesis =>
      rw [unescapeTilde_escape, unescapeTilde_cons_of_ne _ _ (by decide), hypothesis]
  | case4 c rest noTilde noSlash hypothesis =>
      rw [unescapeTilde_cons_of_ne _ _ noTilde, unescapeTilde_cons_of_ne _ _ noTilde, hypothesis]

/-- Names with the same segment are the same. -/
theorem encodeSegment_injective : Function.Injective encodeSegment := by
  intro one another same
  rw [← unescapeTilde_encodeSegment one, same, unescapeTilde_encodeSegment]

theorem decodeSegment_ne_nil {segment : List Char} (filled : segment ≠ []) :
    decodeSegment segment ≠ [] := by
  apply unescapeTilde_ne_nil
  apply unescapeTilde_ne_nil
  exact percentDecodeFrom_ne_nil (.inr filled)

/-! ## Percent escapes in segments -/

theorem totalWeight_unescapeTilde
    {digit char : Char}
    (lightDigit : weight digit = 0)
    (lightChar : weight char = 0)
    (text : List Char) :
    totalWeight (unescapeTilde digit char text) = totalWeight text := by
  have lightTilde : weight '~' = 0 := rfl
  fun_induction unescapeTilde digit char text with
  | case1 rest hypothesis =>
      rw [totalWeight_cons, totalWeight_cons, totalWeight_cons, hypothesis, lightTilde, lightDigit,
        lightChar, Nat.zero_add, Nat.zero_add]
  | case2 d rest _ hypothesis => rw [totalWeight_cons, totalWeight_cons, hypothesis]
  | case3 c rest _ hypothesis => rw [totalWeight_cons, totalWeight_cons, hypothesis]
  | case4 => rfl

theorem totalWeight_encodeSegment (name : List Char) :
    totalWeight (encodeSegment name) = totalWeight name := by
  fun_induction encodeSegment name with
  | case1 => rfl
  | case2 rest hypothesis =>
      rw [totalWeight_cons, totalWeight_cons, totalWeight_cons, hypothesis]
      exact Nat.zero_add _
  | case3 rest hypothesis =>
      rw [totalWeight_cons, totalWeight_cons, totalWeight_cons, hypothesis]
      exact Nat.zero_add _
  | case4 c rest _ _ hypothesis => rw [totalWeight_cons, totalWeight_cons, hypothesis]

/-- A segment starts with a hexadecimal digit if its name does, and goes on with the
rest of the name then. -/
theorem encodeSegment_cons_cases (c : Char) (rest : List Char) :
    (isHexDigit c = false ∧ ∃ first others, encodeSegment (c :: rest) = first :: others ∧
      isHexDigit first = false) ∨ encodeSegment (c :: rest) = c :: encodeSegment rest := by
  by_cases tilde : c = '~'
  · subst tilde
    exact .inl ⟨rfl, '~', _, rfl, rfl⟩
  · by_cases slash : c = '/'
    · subst slash
      exact .inl ⟨rfl, '~', _, rfl, rfl⟩
    · exact .inr (encodeSegment_cons_of_ne tilde slash rest)

theorem startsEscape_encodeSegment (name : List Char) :
    startsEscape ('%' :: encodeSegment name) = startsEscape ('%' :: name) := by
  have noFirst {a : Char} (noDigit : isHexDigit a = false) (others : List Char) :
      startsEscape ('%' :: a :: others) = false := by
    cases others <;> simp [startsEscape, noDigit]
  cases name with
  | nil => rfl
  | cons a rest =>
      rcases encodeSegment_cons_cases a rest with ⟨noDigit, first, others, same, noDigitThere⟩ | same
      · rw [same, noFirst noDigit, noFirst noDigitThere]
      · rw [same]
        cases rest with
        | nil => rfl
        | cons b more =>
            rcases encodeSegment_cons_cases b more with ⟨noDigit, first, others, same, noDigitThere⟩ | same
            · rw [same]
              simp [startsEscape, noDigit, noDigitThere]
            · rw [same]
              rfl

/-- A name and its segment both have percent escapes, or neither has. -/
theorem hasEscape_encodeSegment (name : List Char) :
    hasEscape (encodeSegment name) = hasEscape name := by
  fun_induction encodeSegment name with
  | case1 => rfl
  | case2 rest hypothesis =>
      rw [hasEscape_cons_of_ne (by decide), hasEscape_cons_of_ne (by decide), hypothesis,
        hasEscape_cons_of_ne (by decide)]
  | case3 rest hypothesis =>
      rw [hasEscape_cons_of_ne (by decide), hasEscape_cons_of_ne (by decide), hypothesis,
        hasEscape_cons_of_ne (by decide)]
  | case4 c rest _ _ hypothesis =>
      by_cases sign : c = '%'
      · subst sign
        rw [hasEscape, hasEscape, hypothesis, startsEscape_encodeSegment]
      · rw [hasEscape_cons_of_ne sign, hasEscape_cons_of_ne sign, hypothesis]

/-- The segment of a name is read as the name exactly if there is no percent escape in
the name. -/
theorem decodeSegment_encodeSegment_iff (name : List Char) :
    decodeSegment (encodeSegment name) = name ↔ hasEscape name = false := by
  rw [← hasEscape_encodeSegment]
  constructor
  · intro same
    rw [Bool.eq_false_iff]
    intro escaped
    have lighter := totalWeight_percentDecode_lt escaped
    have kept : totalWeight (decodeSegment (encodeSegment name)) =
        totalWeight (percentDecode (encodeSegment name)) := by
      rw [decodeSegment, totalWeight_unescapeTilde rfl rfl, totalWeight_unescapeTilde rfl rfl]
    rw [← kept, same, totalWeight_encodeSegment] at lighter
    exact Nat.lt_irrefl _ lighter
  · intro plain
    rw [decodeSegment, percentDecode_eq_self plain, unescapeTilde_encodeSegment]

/-! ## Spellings of pointers -/

theorem splitAt_of_not_mem
    {separator : Char}
    {part : List Char}
    (absent : separator ∉ part) :
    splitAt separator part = [part] := by
  induction part with
  | nil => rfl
  | cons c rest hypothesis =>
      simp only [List.mem_cons, not_or] at absent
      rw [splitAt, if_neg (Ne.symm absent.1), hypothesis absent.2]

theorem splitAt_append
    {separator : Char}
    {part : List Char}
    (absent : separator ∉ part)
    (behind : List Char) :
    splitAt separator (part ++ separator :: behind) = part :: splitAt separator behind := by
  induction part with
  | nil => rw [List.nil_append, splitAt, if_pos rfl]
  | cons c rest hypothesis =>
      simp only [List.mem_cons, not_or] at absent
      rw [List.cons_append, splitAt, if_neg (Ne.symm absent.1), hypothesis absent.2]

theorem splitAt_ne_nil (separator : Char) (text : List Char) : splitAt separator text ≠ [] := by
  fun_cases splitAt separator text <;> simp

/-- The first part of a text is followed by the separator, unless it is the only one. -/
theorem splitAt_eq_cons
    {separator : Char}
    {text part : List Char}
    {others : List (List Char)}
    (split : splitAt separator text = part :: others) :
    separator ∉ part ∧
      (others = [] ∧ text = part ∨
        ∃ behind, text = part ++ separator :: behind ∧ splitAt separator behind = others) := by
  induction text generalizing part with
  | nil =>
      cases split
      exact ⟨List.not_mem_nil, .inl ⟨rfl, rfl⟩⟩
  | cons c rest hypothesis =>
      rw [splitAt] at split
      split at split
      · rename_i same
        cases split
        exact ⟨List.not_mem_nil, .inr ⟨rest, by rw [same, List.nil_append], rfl⟩⟩
      · rename_i other
        split at split
        · rename_i none
          exact absurd none (splitAt_ne_nil separator rest)
        · rename_i first parts found
          cases split
          obtain ⟨absent, ways⟩ := hypothesis found
          refine ⟨by simp [absent, Ne.symm other], ?_⟩
          rcases ways with ⟨only, rfl⟩ | ⟨behind, rfl, further⟩
          · exact .inl ⟨only, rfl⟩
          · exact .inr ⟨behind, rfl, further⟩

/-- A text with one separator is its two parts. -/
theorem splitAt_eq_pair
    {separator : Char}
    {text first second : List Char}
    (split : splitAt separator text = [first, second]) :
    text = first ++ separator :: second ∧ separator ∉ second := by
  obtain ⟨_, ⟨only, _⟩ | ⟨behind, rfl, further⟩⟩ := splitAt_eq_cons split
  · contradiction
  · obtain ⟨absent, ⟨_, rfl⟩ | ⟨more, _, none⟩⟩ := splitAt_eq_cons further
    · exact ⟨rfl, absent⟩
    · exact absurd none (splitAt_ne_nil separator more)

theorem Section.not_mem_key (ofSection : Section) : '/' ∉ ofSection.key.toList := by
  cases ofSection <;> decide

theorem Section.ofKey?_key (ofSection : Section) : Section.ofKey? ofSection.key = some ofSection := by
  cases ofSection <;> decide

theorem Section.key_of_ofKey? {key : String} {ofSection : Section}
    (found : Section.ofKey? key = some ofSection) :
    ofSection.key = key := by
  unfold Section.ofKey? at found
  have same := List.find?_some found
  exact eq_of_beq same

theorem Section.key_injective : Function.Injective Section.key := by
  intro one another same
  have found := Section.ofKey?_key one
  rw [same, Section.ofKey?_key] at found
  exact (Option.some.inj found).symm

/-- What all pointers start with, the key of a section, and a segment. -/
def spelling (ofSection : Section) (segment : List Char) : String :=
  pointerStart ++ ofSection.key ++ "/" ++ String.ofList segment

theorem toList_spelling (ofSection : Section) (segment : List Char) :
    (spelling ofSection segment).toList =
      pointerStart.toList ++ (ofSection.key.toList ++ '/' :: segment) := by
  simp [spelling]

/-- The two parts of a spelling after its start. -/
theorem splitAt_spelling (ofSection : Section) {segment : List Char} (single : '/' ∉ segment) :
    splitAt '/' ((spelling ofSection segment).toList.drop pointerStart.length) =
      [ofSection.key.toList, segment] := by
  have dropped : (spelling ofSection segment).toList.drop pointerStart.length =
      ofSection.key.toList ++ '/' :: segment := by
    rw [toList_spelling, ← String.length_toList, List.drop_left]
  rw [dropped, splitAt_append (Section.not_mem_key _), splitAt_of_not_mem single]

namespace Pointer

/-- A text spells a pointer if its segment, of which there is one that is not empty, is
decoded to the name. -/
inductive Spelled : String → Pointer → Prop
  | mk
      (ofSection : Section)
      {segment : List Char}
      (filled : segment ≠ [])
      (single : '/' ∉ segment) :
      Spelled (spelling ofSection segment) ⟨ofSection, String.ofList (decodeSegment segment)⟩

/-- A text is read as the pointer that it spells. -/
theorem Spelled.parse {reference : String} {pointer : Pointer} (spelled : Spelled reference pointer) :
    Pointer.parse reference = .ok pointer := by
  obtain @⟨ofSection, segment, filled, single⟩ := spelled
  have starts : startsWith pointerStart.toList (spelling ofSection segment).toList = true := by
    rw [startsWith, List.isPrefixOf_iff_prefix, toList_spelling]
    exact List.prefix_append _ _
  unfold Pointer.parse
  simp only [starts, if_true, splitAt_spelling ofSection single]
  rw [if_neg (by simpa using filled), String.ofList_toList, Section.ofKey?_key]

/-- A text is read as a pointer exactly if it spells the pointer. -/
theorem parse_eq_ok_iff {reference : String} {pointer : Pointer} :
    Pointer.parse reference = .ok pointer ↔ Spelled reference pointer := by
  refine ⟨?_, Spelled.parse⟩
  intro parsed
  unfold Pointer.parse at parsed
  dsimp only at parsed
  split at parsed
  · rename_i starts
    obtain ⟨behind, text⟩ := List.isPrefixOf_iff_prefix.mp starts
    split at parsed
    · rename_i key segment parts
      rw [← text, ← String.length_toList, List.drop_left] at parts
      obtain ⟨rfl, single⟩ := splitAt_eq_pair parts
      split at parsed
      · contradiction
      · rename_i filled
        split at parsed
        · rename_i ofSection found
          cases parsed
          have same : reference = spelling ofSection segment := by
            apply String.toList_injective
            rw [toList_spelling, Section.key_of_ofKey? found, String.toList_ofList, text]
          rw [same]
          exact .mk ofSection (by simpa using filled) single
        · contradiction
    · contradiction
  · contradiction

theorem splitAt_text (pointer : Pointer) :
    splitAt '/' (pointer.text.toList.drop pointerStart.length) =
      [pointer.ofSection.key.toList, encodeSegment pointer.name.toList] :=
  splitAt_spelling _ (not_mem_encodeSegment _)

/-- Pointers with the same canonical spelling are the same. -/
theorem text_injective : Function.Injective Pointer.text := by
  intro one another same
  have parts := splitAt_text one
  rw [same, splitAt_text another] at parts
  simp only [List.cons.injEq, and_true] at parts
  obtain ⟨keys, segments⟩ := parts
  have sections := Section.key_injective (String.toList_injective keys)
  have names := String.toList_injective (encodeSegment_injective segments)
  cases one
  cases another
  simp only at sections names
  rw [sections, names]

/-- A canonical spelling is read as the decoded pointer. -/
theorem parse_text {pointer : Pointer} (named : pointer.name ≠ "") :
    Pointer.parse pointer.text = .ok pointer.decoded := by
  have filled : encodeSegment pointer.name.toList ≠ [] := by
    apply encodeSegment_ne_nil
    intro empty
    exact named (String.toList_injective empty)
  exact (Spelled.mk pointer.ofSection filled (not_mem_encodeSegment _)).parse

theorem decoded_eq_iff (pointer : Pointer) :
    pointer.decoded = pointer ↔ hasEscape pointer.name.toList = false := by
  rw [← decodeSegment_encodeSegment_iff]
  constructor
  · intro same
    have names := congrArg (fun pointer => pointer.name.toList) same
    simpa [Pointer.decoded] using names
  · intro same
    unfold Pointer.decoded
    rw [same, String.ofList_toList]

/-- The name of a pointer that is spelled is not empty. -/
theorem name_ne_empty_of_parse
    {reference : String}
    {pointer : Pointer}
    (parsed : Pointer.parse reference = .ok pointer) :
    pointer.name ≠ "" := by
  obtain ⟨_, filled, _⟩ := parse_eq_ok_iff.mp parsed
  intro empty
  exact decodeSegment_ne_nil filled (String.ofList_eq_empty_iff.mp empty)

end Pointer

namespace Catalog

/-- What a reference spells does not depend on the unit in which it occurs. -/
theorem parse_eq_ok_iff {reference : String} {location : Option String} {pointer : Pointer} :
    parse reference location = .ok pointer ↔ Pointer.parse reference = .ok pointer := by
  unfold parse
  cases Pointer.parse reference <;> simp

theorem canonical_eq_of_parse
    {reference : String}
    {location : Option String}
    {pointer : Pointer}
    (parsed : parse reference location = .ok pointer) :
    canonical reference location = .ok pointer.text := by
  rw [canonical, parsed]
  rfl

/-- A canonical spelling is canonical exactly if there is no percent escape in the
name. -/
theorem canonical_text_iff {pointer : Pointer} (named : pointer.name ≠ "") (location : Option String) :
    canonical pointer.text location = .ok pointer.text ↔ hasEscape pointer.name.toList = false := by
  have read : parse pointer.text location = .ok pointer.decoded :=
    parse_eq_ok_iff.mpr (Pointer.parse_text named)
  rw [canonical_eq_of_parse read, Except.ok.injEq, Pointer.text_injective.eq_iff,
    Pointer.decoded_eq_iff]

/-- What a reference leads to depends on its pointer only, but for the spelling in an
error. -/
theorem mapError_resolve
    {catalog : Catalog}
    {reference : String}
    {location : Option String}
    {pointer : Pointer}
    (parsed : parse reference location = .ok pointer) :
    (catalog.resolve reference location).mapError ReferenceError.problem =
      match catalog.get? pointer with
      | some component => .ok (pointer, component)
      | none => .error (.missing pointer (catalog.available pointer.ofSection)) := by
  unfold resolve find
  rw [parsed]
  cases found : catalog.get? pointer with
  | none =>
      simp only [bind, Except.bind, found]
      rfl
  | some component =>
      simp only [bind, Except.bind, found]
      rfl

end Catalog

end Component
end ApiTypings
