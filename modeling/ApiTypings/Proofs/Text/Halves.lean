import ApiTypings.Text.Half
import Mathlib.Tactic.Common

/-!
# Texts with halves of surrogate pairs

The code points that are put in a text are found in it again, halves of surrogate pairs
among them. A text can be written out exactly if it holds no half, and then as what it was
made of.
-/

namespace ApiTypings
namespace Text

/-! ## Code points -/

theorem isHalf_toNat (c : Char) : isHalf c.toNat = false := by
  have valid : c.toNat < 0xD800 ∨ 0xDFFF < c.toNat ∧ c.toNat < 0x110000 := c.valid
  simp only [isHalf, Bool.and_eq_false_iff, decide_eq_false_iff_not]
  omega

theorem codes_cons_of_ne {c : Char} (plain : c ≠ halfMark) (rest : List Char) :
    codes (c :: rest) = c.toNat :: codes rest := by
  cases rest with
  | nil => rfl
  | cons next rest => rw [codes, if_pos plain]

/-- What stands before the first mark is taken as it is. -/
theorem codes_append_of_not_mem
    {start : List Char}
    (plain : halfMark ∉ start)
    (rest : List Char) :
    codes (start ++ rest) = start.map Char.toNat ++ codes rest := by
  induction start with
  | nil => rfl
  | cons c start hypothesis =>
      have different : c ≠ halfMark := fun same => plain (same ▸ List.mem_cons_self)
      have others : halfMark ∉ start := fun listed => plain (List.mem_cons_of_mem c listed)
      rw [List.cons_append, codes_cons_of_ne different, hypothesis others]
      rfl

theorem codes_markedChar_append (c : Char) (rest : List Char) :
    codes (markedChar c ++ rest) = c.toNat :: codes rest := by
  unfold markedChar
  split
  · rename_i same
    subst same
    simp [codes]
  · rename_i different
    exact codes_cons_of_ne different rest

theorem ofCode_of_not_half {code : Nat} (whole : isHalf code = false) :
    ofCode code = markedChar (Char.ofNat code) := by
  simp [ofCode, whole]

theorem toNat_ofNat_of_not_half
    {code : Nat}
    (inRange : code < 0x110000)
    (whole : isHalf code = false) :
    (Char.ofNat code).toNat = code := by
  simp only [isHalf, Bool.and_eq_false_iff, decide_eq_false_iff_not] at whole
  have valid : code.isValidChar := by
    unfold Nat.isValidChar
    omega
  rw [Char.ofNat, dif_pos valid]
  rfl

/-- The character behind a mark tells the half. -/
theorem codes_half_append {code : Nat} (half : isHalf code = true) (rest : List Char) :
    codes (halfMark :: Char.ofNat (code + halfShift) :: rest) = code :: codes rest := by
  simp only [isHalf, Bool.and_eq_true, decide_eq_true_eq] at half
  have whole : isHalf (code + halfShift) = false := by
    have beyond : ¬ code + halfShift < 0xE000 := by
      simp only [halfShift]
      omega
    simp [isHalf, beyond]
  have toNat : (Char.ofNat (code + halfShift)).toNat = code + halfShift :=
    toNat_ofNat_of_not_half (by simp only [halfShift]; omega) whole
  have noMark : Char.ofNat (code + halfShift) ≠ halfMark := by
    intro same
    have number := congrArg Char.toNat same
    rw [toNat] at number
    have last : halfMark.toNat = 0x10FFFF := by decide
    simp only [last, halfShift] at number
    omega
  rw [codes, if_neg (not_not_intro rfl), if_neg noMark, toNat, Nat.add_sub_cancel]

theorem codes_ofCode_append {code : Nat} (inRange : code < 0x110000) (rest : List Char) :
    codes (ofCode code ++ rest) = code :: codes rest := by
  cases half : isHalf code with
  | true =>
      rw [ofCode, if_pos half]
      exact codes_half_append half rest
  | false =>
      rw [ofCode_of_not_half half, codes_markedChar_append, toNat_ofNat_of_not_half inRange half]

/-- The code points of a text are those it was made of. -/
theorem codes_flatMap_ofCode {points : List Nat} (inRange : ∀ code ∈ points, code < 0x110000) :
    codes (points.flatMap ofCode) = points := by
  induction points with
  | nil => rfl
  | cons code points hypothesis =>
      obtain ⟨first, others⟩ := List.forall_mem_cons.mp inRange
      rw [List.flatMap_cons, codes_ofCode_append first, hypothesis others]

theorem codes_marked (chars : List Char) : codes (marked chars) = chars.map Char.toNat := by
  unfold marked
  induction chars with
  | nil => rfl
  | cons c chars hypothesis =>
      rw [List.flatMap_cons, codes_markedChar_append, hypothesis, List.map_cons]

/-! ## Writing out -/

theorem firstHalves?_eq_none_iff {passes : Nat → Bool} {position : Nat} {points : List Nat} :
    firstHalves? passes position points = none ↔
      ∀ code ∈ points, isHalf code = true → passes code = true := by
  induction points generalizing position with
  | nil => simp [firstHalves?]
  | cons code points hypothesis =>
      unfold firstHalves?
      split
      · rename_i stopped
        simp_all
      · rename_i goesOn
        rw [hypothesis, List.forall_mem_cons]
        simp_all

/-- A text can be written out exactly if none of its code points is a half. -/
theorem plain?_eq_ok_iff {text plain : String} :
    plain? text = .ok plain ↔
      (∀ code ∈ codes text.toList, isHalf code = false) ∧
        plain = String.ofList ((codes text.toList).map Char.ofNat) := by
  have clear_iff : firstHalves? (fun _ => false) 0 (codes text.toList) = none ↔
      ∀ code ∈ codes text.toList, isHalf code = false := by
    simp [firstHalves?_eq_none_iff]
  unfold plain?
  split
  · rename_i error found
    rw [← clear_iff, found]
    simp
  · rename_i clear
    rw [Except.ok.injEq, eq_comm]
    exact (and_iff_right (clear_iff.mp clear)).symm

/-- Characters without halves are written out as they are. -/
theorem plain?_marked (chars : List Char) :
    plain? (String.ofList (marked chars)) = .ok (String.ofList chars) := by
  rw [plain?_eq_ok_iff, String.toList_ofList, codes_marked]
  constructor
  · intro code listed
    obtain ⟨c, _, rfl⟩ := List.mem_map.mp listed
    exact isHalf_toNat c
  · rw [List.map_map]
    exact congrArg String.ofList ((List.map_id'' Char.ofNat_toNat chars).symm)

theorem withoutHalves_append
    {start : List Char}
    (plain : halfMark ∉ start)
    (rest : List Char) :
    withoutHalves (String.ofList (start ++ rest)) =
      String.ofList start ++ withoutHalves (String.ofList rest) := by
  have same : (start.map Char.toNat).flatMap (fun code =>
      if isHalf code then unicodeEscape code else [Char.ofNat code]) = start := by
    rw [List.flatMap_map]
    simp [isHalf_toNat]
  unfold withoutHalves
  rw [String.toList_ofList, String.toList_ofList, codes_append_of_not_mem plain,
    List.flatMap_append, same, String.ofList_append]

end Text
end ApiTypings
