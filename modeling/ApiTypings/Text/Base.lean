import ApiTypings.Text.BaseTable
import ApiTypings.Text.Capital
import ApiTypings.Text.MarkTable
import ApiTypings.Text.Range

/-!
# Texts without accents

Every character is replaced by its base characters: the compatibility
decomposition without the combining marks.
-/

namespace ApiTypings
namespace Text

/-- The class of a combining mark, and zero for any other character. -/
def markClass (c : Char) : Nat :=
  ((markClasses.find? fun entry => inRanges entry.2 c.toNat).map Prod.fst).getD 0

/-- Whether a character is a combining mark. -/
def isCombining (c : Char) : Bool :=
  markClass c != 0

/-- A Hangul syllable as its leading consonant, its vowel and, if there is one,
its trailing consonant. -/
def hangulParts (syllable : Nat) : List Char :=
  let trailing := syllable % 28
  let vowel := syllable / 28 % 21
  let leading := syllable / 588
  [Char.ofNat (0x1100 + leading), Char.ofNat (0x1161 + vowel)] ++
    (if trailing = 0 then [] else [Char.ofNat (0x11A7 + trailing)])

/-- The bases of a character that has several or none. -/
def longBase (code : Nat) : Option String :=
  longBases.findSome? fun run =>
    if run.1 ≤ code then run.2[code - run.1]? else none

/-- The base characters of a character. -/
def base (c : Char) : List Char :=
  let code := c.toNat
  if code < 0x80 then [c]
  else if 0xAC00 ≤ code && code ≤ 0xD7A3 then hangulParts (code - 0xAC00)
  else if isCombining c then []
  else
    match longBase code with
    | some bases => bases.toList
    | none => [(memberOfRun shortBases code).getD c]

/-- A text without accents. -/
def removeAccents (text : List Char) : List Char :=
  text.flatMap base

end Text
end ApiTypings
