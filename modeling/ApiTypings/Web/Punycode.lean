/-!
# Punycode

Labels of host names in ASCII. The ASCII characters of a label stand first; the
others follow in the order of their code points, each as the distance from the
one before, written as a number whose digits say themselves where it ends.
-/

namespace ApiTypings
namespace Web
namespace Punycode

/-- The digit of a value below 36. -/
def digit (value : Nat) : Char :=
  if value < 26 then Char.ofNat ('a'.toNat + value) else Char.ofNat ('0'.toNat + value - 26)

/-- The value of a digit, in either case. -/
def digitValue? (c : Char) : Option Nat :=
  if c.isLower then some (c.toNat - 'a'.toNat)
  else if c.isUpper then some (c.toNat - 'A'.toNat)
  else if c.isDigit then some (c.toNat - '0'.toNat + 26)
  else none

/-- A digit below the threshold of its place is the last one of a number. -/
def threshold (bias place : Nat) : Nat :=
  if place ≤ bias then 1 else if bias + 26 ≤ place then 26 else place - bias

/-- Thresholds are positive. -/
theorem threshold_pos (bias place : Nat) : 0 < threshold bias place := by
  unfold threshold
  split
  · omega
  · split <;> omega

/-- Take the factor 35 from a distance as long as it is large; the number of
places that this saves is counted along. -/
def shrink (distance saved : Nat) : Nat × Nat :=
  if 455 < distance then shrink (distance / 35) (saved + 36) else (distance, saved)
termination_by distance
decreasing_by exact Nat.div_lt_self (by omega) (by omega)

/-- The bias after a distance was written, `count` being the number of characters
that are placed. -/
def adapted (distance count : Nat) (first : Bool) : Nat :=
  let start := if first then distance / 700 else distance / 2
  let (rest, saved) := shrink (start + start / count) 0
  saved + 36 * rest / (rest + 38)

/-- A number from a place on. -/
def number (bias place value : Nat) : List Char :=
  let limit := threshold bias place
  if value < limit then [digit value]
  else
    digit (limit + (value - limit) % (36 - limit)) ::
      number bias (place + 36) ((value - limit) / (36 - limit))
termination_by value
decreasing_by
  have positive := threshold_pos bias place
  have smaller := Nat.div_le_self
    (value - threshold bias place) (36 - threshold bias place)
  omega

/-- What is known while a label is written. -/
structure Writing where
  text : List Char
  distance : Nat := 0
  bias : Nat := 72
  placed : Nat

/-- Pass a character of the label while the characters with a code point are
written. -/
def Writing.pass (basic code : Nat) (writing : Writing) (c : Char) : Writing :=
  if c.toNat < code then { writing with distance := writing.distance + 1 }
  else if c.toNat = code then
    { text := writing.text ++ number writing.bias 36 writing.distance
      distance := 0
      bias := adapted writing.distance (writing.placed + 1) (writing.placed == basic)
      placed := writing.placed + 1 }
  else writing

/-- Write the characters with the given code points, which are in order; `next` is
the least code point that may still come. -/
def writeFrom (label : List Char) (basic next : Nat) (writing : Writing) : List Nat → Writing
  | [] => writing
  | code :: rest =>
      let moved :=
        { writing with
          distance := writing.distance + (code - next) * (writing.placed + 1) }
      let passed := label.foldl (Writing.pass basic code) moved
      writeFrom label basic (code + 1) { passed with distance := passed.distance + 1 } rest

/-- The ASCII form of a label. -/
def encode (label : List Char) : List Char :=
  let basic := label.filter fun c => c.toNat < 0x80
  let codes := (label.filter fun c => 0x80 ≤ c.toNat).map Char.toNat
  let start := if basic.isEmpty then [] else basic ++ ['-']
  (writeFrom label basic.length 0x80 { text := start, placed := basic.length }
    (codes.mergeSort.eraseDups)).text

/-- Read a number: what it adds to `value`, and what follows it. -/
def number? (bias place weight value : Nat) : List Char → Option (Nat × List Char)
  | [] => none
  | c :: rest =>
      match digitValue? c with
      | none => none
      | some given =>
          let total := value + given * weight
          let limit := threshold bias place
          if given < limit then some (total, rest)
          else number? bias (place + 36) (weight * (36 - limit)) total rest

/-- A number takes at least one character. -/
theorem length_lt_of_number?
    {bias place weight value : Nat}
    {text : List Char}
    {result : Nat × List Char}
    (found : number? bias place weight value text = some result) :
    result.2.length < text.length := by
  fun_induction number? bias place weight value text with
  | case1 => simp at found
  | case2 => simp at found
  | case3 =>
      obtain rfl := Option.some.inj found
      simp
  | case4 _ _ _ _ _ _ _ _ _ _ induction =>
      have shorter := induction found
      simp only [List.length_cons]
      omega

/-- Place the characters that numbers stand for, `code` and `index` telling of the
one before. -/
def placeFrom (bias code index : Nat) (placed : List Char) (text : List Char) :
    Option (List Char) :=
  match text with
  | [] => some placed
  | first :: more =>
      match found : number? bias 36 1 index (first :: more) with
      | none => none
      | some (total, rest) =>
          have _shorter : rest.length < (first :: more).length := length_lt_of_number? found
          let count := placed.length + 1
          let next := code + total / count
          if next.isValidChar then
            placeFrom (adapted (total - index) count (index == 0)) next (total % count + 1)
              (placed.insertIdx (total % count) (Char.ofNat next)) rest
          else none
termination_by text.length
decreasing_by exact _shorter

/-- The label with an ASCII form. -/
def decode (text : List Char) : Option (List Char) :=
  let ending := (text.reverse.takeWhile (· != '-')).reverse
  let basic := text.take (text.length - ending.length - 1)
  placeFrom 72 0x80 0 basic ending

end Punycode
end Web
end ApiTypings
