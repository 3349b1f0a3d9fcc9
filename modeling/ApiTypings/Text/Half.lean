import ApiTypings.Text.Hex

/-!
# Halves of surrogate pairs

A document can spell a code point that is no character, half of a surrogate pair, and
such a text can be passed on but not written out. In a string, a half is a mark with
a character behind it that tells which half it is, and the mark itself stands twice.
-/

namespace ApiTypings
namespace Text

/-- Whether a code point is half of a surrogate pair. -/
def isHalf (code : Nat) : Bool :=
  0xD800 ≤ code && code < 0xE000

/-- The character that announces a half. -/
def halfMark : Char := Char.ofNat 0x10FFFF

/-- How far the character that tells a half lies behind it. -/
def halfShift : Nat := 0x800

/-- A character in a text. -/
def markedChar (c : Char) : List Char :=
  if c = halfMark then [halfMark, halfMark] else [c]

/-- Characters as a text. -/
def marked (chars : List Char) : List Char :=
  chars.flatMap markedChar

/-- A code point in a text. -/
def ofCode (code : Nat) : List Char :=
  if isHalf code then [halfMark, Char.ofNat (code + halfShift)]
  else markedChar (Char.ofNat code)

/-- The code points of a text. -/
def codes : List Char → List Nat
  | [] => []
  | [c] => [c.toNat]
  | first :: second :: rest =>
      if first ≠ halfMark then first.toNat :: codes (second :: rest)
      else if second = halfMark then halfMark.toNat :: codes rest
      else (second.toNat - halfShift) :: codes rest

/-- Halves that cannot be written out: where the first of them stands, and which
stand there in a row. -/
structure EncodeError where
  position : Nat
  halves : List Nat
  deriving DecidableEq, Repr

/-- The report of halves. -/
def EncodeError.message (error : EncodeError) : String :=
  let place :=
    match error.halves with
    | [code] =>
        "character '" ++ String.ofList (unicodeEscape code) ++ "' in position " ++
          toString error.position
    | halves =>
        "characters in position " ++ toString error.position ++ "-" ++
          toString (error.position + halves.length - 1)
  "'utf-8' codec can't encode " ++ place ++ ": surrogates not allowed"

/-- The first halves among code points that are not let pass; `position` counts the
code points before. -/
def firstHalves? (passes : Nat → Bool) (position : Nat) : List Nat → Option EncodeError
  | [] => none
  | code :: rest =>
      if isHalf code && !passes code then some ⟨position, code :: rest.takeWhile isHalf⟩
      else firstHalves? passes (position + 1) rest

/-- The characters of a text, if it holds no half. -/
def plain? (text : String) : Except EncodeError String :=
  match firstHalves? (fun _ => false) 0 (codes text.toList) with
  | some error => .error error
  | none => .ok (String.ofList ((codes text.toList).map Char.ofNat))

/-- The characters of a text, where halves are spelled by their numbers. -/
def withoutHalves (text : String) : String :=
  String.ofList ((codes text.toList).flatMap fun code =>
    if isHalf code then unicodeEscape code else [Char.ofNat code])

end Text
end ApiTypings
