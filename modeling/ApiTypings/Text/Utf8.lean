/-!
# UTF-8

Decoding of bytes. A fault covers the longest run of bytes that could have
started a character; it is reported by `decode` and replaced by `decodeLossy`.
-/

namespace ApiTypings
namespace Text

/-- What is wrong with a run of bytes. -/
inductive ByteFault
  | start
  | continuation
  | truncated
  deriving DecidableEq, Repr

/-- The wording of a fault. -/
def ByteFault.message : ByteFault → String
  | .start => "invalid start byte"
  | .continuation => "invalid continuation byte"
  | .truncated => "unexpected end of data"

/-- A first byte of a longer character: the number of bytes after it, the bits
it contributes, and the range of the second byte. -/
structure LeadByte where
  more : Nat
  bits : Nat
  low : Nat
  high : Nat

/-- The first bytes of longer characters. -/
def leadByte? (byte : Nat) : Option LeadByte :=
  if 0xC2 ≤ byte ∧ byte ≤ 0xDF then some ⟨1, byte - 0xC0, 0x80, 0xBF⟩
  else if byte = 0xE0 then some ⟨2, 0, 0xA0, 0xBF⟩
  else if byte = 0xED then some ⟨2, 0x0D, 0x80, 0x9F⟩
  else if 0xE1 ≤ byte ∧ byte ≤ 0xEF then some ⟨2, byte - 0xE0, 0x80, 0xBF⟩
  else if byte = 0xF0 then some ⟨3, 0, 0x90, 0xBF⟩
  else if 0xF1 ≤ byte ∧ byte ≤ 0xF3 then some ⟨3, byte - 0xF0, 0x80, 0xBF⟩
  else if byte = 0xF4 then some ⟨3, 4, 0x80, 0x8F⟩
  else none

/-- A character or a fault, and how many bytes after the first one it takes. -/
structure Decoded where
  outcome : Except ByteFault Char
  more : Nat

/-- Decode the bytes after a first one: `more` bytes are owed, the next one lies
between `low` and `high`, and `bits` and `taken` describe what was read. -/
def decodeTail (more bits low high taken : Nat) (bytes : List UInt8) : Decoded :=
  match more, bytes with
  | 0, _ => ⟨.ok (Char.ofNat bits), taken⟩
  | _ + 1, [] => ⟨.error .truncated, taken⟩
  | more + 1, byte :: rest =>
      if low ≤ byte.toNat ∧ byte.toNat ≤ high then
        decodeTail more (bits * 64 + byte.toNat % 64) 0x80 0xBF (taken + 1) rest
      else ⟨.error .continuation, taken⟩

/-- Decode the character that starts with a byte. -/
def decodeFrom (first : UInt8) (rest : List UInt8) : Decoded :=
  if first.toNat < 0x80 then ⟨.ok (Char.ofNat first.toNat), 0⟩
  else
    match leadByte? first.toNat with
    | none => ⟨.error .start, 0⟩
    | some lead => decodeTail lead.more lead.bits lead.low lead.high 0 rest

/-- A fault and the bytes that it covers. -/
structure DecodeError where
  fault : ByteFault
  position : Nat
  bytes : List UInt8
  deriving DecidableEq, Repr

/-- A byte in two hexadecimal digits. -/
def hexByte (byte : UInt8) : String :=
  let digits := Nat.toDigits 16 byte.toNat
  String.ofList (if digits.length < 2 then '0' :: digits else digits)

/-- The report of a fault. -/
def DecodeError.message (error : DecodeError) : String :=
  let place :=
    match error.bytes with
    | [byte] => "byte 0x" ++ hexByte byte ++ " in position " ++ toString error.position
    | bytes =>
        "bytes in position " ++ toString error.position ++ "-" ++
          toString (error.position + bytes.length - 1)
  "'utf-8' codec can't decode " ++ place ++ ": " ++ error.fault.message

/-- The characters of bytes, or the first fault; `position` counts the bytes
before. -/
def decodeAt (position : Nat) (bytes : List UInt8) : Except DecodeError (List Char) :=
  match bytes with
  | [] => .ok []
  | first :: rest =>
      let decoded := decodeFrom first rest
      match decoded.outcome with
      | .error fault => .error ⟨fault, position, first :: rest.take decoded.more⟩
      | .ok char =>
          (decodeAt (position + 1 + decoded.more) (rest.drop decoded.more)).map (char :: ·)
termination_by bytes.length
decreasing_by
  simp only [List.length_cons, List.length_drop]
  omega

/-- The characters of bytes, or the first fault. -/
def decode (bytes : List UInt8) : Except DecodeError (List Char) :=
  decodeAt 0 bytes

/-- The characters of bytes, with the replacement character for every fault. -/
def decodeLossy (bytes : List UInt8) : List Char :=
  match bytes with
  | [] => []
  | first :: rest =>
      let decoded := decodeFrom first rest
      let char :=
        match decoded.outcome with
        | .ok char => char
        | .error _ => '�'
      char :: decodeLossy (rest.drop decoded.more)
termination_by bytes.length
decreasing_by
  simp only [List.length_cons, List.length_drop]
  omega

end Text
end ApiTypings
