import ApiTypings.Decimal.Limit
import ApiTypings.Decimal.Numeral
import ApiTypings.Text.Half
import ApiTypings.Value

/-!
# TOML scalars

Keys, strings, numbers and dates of a TOML text. A reader takes its value off the
front of a text, or fails.
-/

namespace ApiTypings
namespace Toml

/-- Why a text is no document. -/
inductive Fault
  | malformed
  | longInteger (digits : Nat)
  deriving DecidableEq, Repr

/-- A value and the text after it. -/
abbrev Taken (α : Type) := Option (α × List Char)

/-- A value that is there in form, but may denote nothing. -/
abbrev Denoted := Except Fault Value

/-- Whether a character is a blank within a line. -/
def isBlank (c : Char) : Bool :=
  c == ' ' || c == '\t'

/-- Skip blanks within a line. -/
def skipBlanks (text : List Char) : List Char :=
  text.dropWhile isBlank

/-- Whether a character may stand in a comment or a string. -/
def isPrintable (c : Char) : Bool :=
  (0x20 ≤ c.toNat && c.toNat ≠ 0x7F) || c == '\t'

/-- Skip a comment up to the end of its line. -/
def skipComment (text : List Char) : Option (List Char) :=
  match text with
  | '#' :: rest =>
      if (rest.takeWhile (· != '\n')).all isPrintable then some (rest.dropWhile (· != '\n'))
      else none
  | _ => some text

/-- Skip blanks, line breaks and comments. -/
def skipLines (fuel : Nat) (text : List Char) : Option (List Char) :=
  match fuel with
  | 0 => none
  | fuel + 1 =>
      match text.dropWhile (fun c => isBlank c || c == '\n') with
      | '#' :: rest => (skipComment ('#' :: rest)).bind (skipLines fuel)
      | rest => some rest

/-- The character of an escape of one letter. -/
def escaped? : Char → Option Char
  | 'b' => some '\x08'
  | 't' => some '\t'
  | 'n' => some '\n'
  | 'f' => some '\x0c'
  | 'r' => some '\r'
  | '"' => some '"'
  | '\\' => some '\\'
  | _ => none

/-- The character of a number of hexadecimal digits. -/
def hexChar? (count : Nat) (text : List Char) : Taken Char :=
  let digits := text.take count
  let code := Decimal.ofDigits 16 digits
  if digits.length = count ∧ digits.all Text.isHexDigit ∧ code.isValidChar then
    some (Char.ofNat code, text.drop count)
  else none

/-- An escape after its backslash. -/
def escape? : List Char → Taken (List Char)
  | 'u' :: rest => (hexChar? 4 rest).map fun (char, after) => (Text.markedChar char, after)
  | 'U' :: rest => (hexChar? 8 rest).map fun (char, after) => (Text.markedChar char, after)
  | c :: rest => (escaped? c).map fun char => ([char], rest)
  | [] => none

/-- A string on one line after its opening quote; `read` is reversed. -/
def lineString (mark : Char) (fuel : Nat) (read text : List Char) : Taken String :=
  match fuel, text with
  | 0, _ => none
  | _ + 1, [] => none
  | fuel + 1, c :: rest =>
      if c = mark then some (String.ofList read.reverse, rest)
      else if c = '\\' ∧ mark = '"' then
        (escape? rest).bind fun (chars, after) => lineString mark fuel (chars.reverse ++ read) after
      else if isPrintable c then lineString mark fuel (c :: read) rest
      else none

/-- A string on several lines after its opening quotes. Up to two quotes may
stand before the closing ones. -/
def blockString (mark : Char) (fuel : Nat) (read text : List Char) : Taken String :=
  match fuel, text with
  | 0, _ => none
  | _ + 1, [] => none
  | fuel + 1, c :: rest =>
      if Text.startsWith [mark, mark, mark] text then
        let extra := ((text.drop 3).takeWhile (· == mark)).length
        let kept := min extra 2
        some (String.ofList (read.reverse ++ List.replicate kept mark), text.drop (3 + kept))
      else if c = '\\' ∧ mark = '"' then
        match (rest.dropWhile isBlank).head? with
        | some '\n' =>
            blockString mark fuel read (rest.dropWhile fun c => isBlank c || c == '\n')
        | _ =>
            (escape? rest).bind fun (chars, after) =>
              blockString mark fuel (chars.reverse ++ read) after
      else if isPrintable c || c == '\n' then blockString mark fuel (c :: read) rest
      else none

/-- A string of any kind. -/
def string? (text : List Char) : Taken String :=
  let opened (mark : Char) (rest : List Char) : Taken String :=
    let body :=
      match rest with
      | '\n' :: more => more
      | _ => rest
    blockString mark (body.length + 1) [] body
  match text with
  | '"' :: '"' :: '"' :: rest => opened '"' rest
  | '\'' :: '\'' :: '\'' :: rest => opened '\'' rest
  | '"' :: rest => lineString '"' (rest.length + 1) [] rest
  | '\'' :: rest => lineString '\'' (rest.length + 1) [] rest
  | _ => none

/-- Whether a character may stand in a key without quotes. -/
def isBare (c : Char) : Bool :=
  c.isAlphanum || c == '_' || c == '-'

/-- One part of a key. -/
def keyPart? (text : List Char) : Taken String :=
  match text with
  | '"' :: rest => lineString '"' (rest.length + 1) [] rest
  | '\'' :: rest => lineString '\'' (rest.length + 1) [] rest
  | _ =>
      let bare := text.takeWhile isBare
      if bare.isEmpty then none else some (String.ofList bare, text.dropWhile isBare)

/-- A key with its parts between points. -/
def key? (fuel : Nat) (text : List Char) : Taken (List String) :=
  match fuel with
  | 0 => none
  | fuel + 1 =>
      (keyPart? text).bind fun (part, rest) =>
        let after := skipBlanks rest
        match after with
        | '.' :: more =>
            (key? fuel (skipBlanks more)).map fun (parts, last) => (part :: parts, last)
        | _ => some ([part], after)

/-- Digits of a kind, with single underscores between them. -/
def digitsFrom (isDigit : Char → Bool) : List Char → List Char × List Char
  | '_' :: c :: rest =>
      if isDigit c then
        let (digits, after) := digitsFrom isDigit rest
        (c :: digits, after)
      else ([], '_' :: c :: rest)
  | c :: rest =>
      if isDigit c then
        let (digits, after) := digitsFrom isDigit rest
        (c :: digits, after)
      else ([], c :: rest)
  | [] => ([], [])

/-- Digits of a kind, at least one. -/
def digits? (isDigit : Char → Bool) (text : List Char) : Taken (List Char) :=
  match text with
  | c :: _ => if isDigit c then some (digitsFrom isDigit text) else none
  | [] => none

/-- An integer in another base, after its prefix. -/
def based (base : Nat) (isDigit : Char → Bool) (text : List Char) : Taken Denoted :=
  (digits? isDigit text).map fun (digits, rest) => (.ok (.int (Decimal.ofDigits base digits)), rest)

/-- An integer in decimal digits. -/
def integer (negative : Bool) (digits : List Char) : Denoted :=
  let size : Int := Decimal.ofDigits 10 digits
  if Decimal.digitLimit < digits.length then .error (.longInteger digits.length)
  else .ok (.int (if negative then -size else size))

/-- The part of a float after the point. -/
def fraction (text : List Char) : List Char × List Char :=
  match text with
  | '.' :: rest => (digits? Char.isDigit rest).getD ([], text)
  | _ => ([], text)

/-- The exponent of a float. -/
def exponent (text : List Char) : Option Int × List Char :=
  let signed (negative : Bool) (rest : List Char) : Option Int × List Char :=
    match digits? Char.isDigit rest with
    | some (digits, after) =>
        let size : Int := Decimal.ofDigits 10 digits
        (some (if negative then -size else size), after)
    | none => (none, text)
  match text with
  | mark :: rest =>
      if mark == 'e' || mark == 'E' then
        match rest with
        | '-' :: more => signed true more
        | '+' :: more => signed false more
        | _ => signed false rest
      else (none, text)
  | [] => (none, text)

/-- A decimal number after its sign. -/
def decimal (negative : Bool) (text : List Char) : Taken Denoted :=
  let whole : Taken (List Char) :=
    match text with
    | '0' :: rest => some (['0'], rest)
    | _ => digits? Char.isDigit text
  whole.map fun (digits, afterWhole) =>
    let (places, afterPlaces) := fraction afterWhole
    let (power, rest) := exponent afterPlaces
    if places.isEmpty && power.isNone then (integer negative digits, rest)
    else
      (.ok (.float (Decimal.toFloat negative (Decimal.ofDigits 10 (digits ++ places))
        (power.getD 0 - places.length))), rest)

/-- A number that is a word. -/
def wordNumber (negative : Bool) (text : List Char) : Taken Denoted :=
  let word := text.take 3
  let infinite : Float := 1.0 / 0.0
  if word == "inf".toList then
    some (.ok (.float (if negative then -infinite else infinite)), text.drop 3)
  else if word == "nan".toList then some (.ok (.float (0.0 / 0.0)), text.drop 3)
  else none

/-- A number. -/
def number? (text : List Char) : Taken Denoted :=
  let plain (negative : Bool) (rest : List Char) : Taken Denoted :=
    (decimal negative rest).or (wordNumber negative rest)
  match text with
  | '0' :: 'x' :: rest => (based 16 Text.isHexDigit rest).or (decimal false text)
  | '0' :: 'o' :: rest => (based 8 (fun c => '0' ≤ c && c ≤ '7') rest).or (decimal false text)
  | '0' :: 'b' :: rest => (based 2 (fun c => c == '0' || c == '1') rest).or (decimal false text)
  | '-' :: rest => plain true rest
  | '+' :: rest => plain false rest
  | _ => plain false text

/-- A number of two digits between two bounds. -/
def twoDigits? (least most : Nat) : List Char → Taken Nat
  | a :: b :: rest =>
      let number := Decimal.ofDigits 10 [a, b]
      if a.isDigit && b.isDigit && least ≤ number && number ≤ most then some (number, rest)
      else none
  | _ => none

/-- A character, and what follows it. -/
def mark? (mark : Char) : List Char → Option (List Char)
  | c :: rest => if c = mark then some rest else none
  | [] => none

/-- The millionths of a second after the point, of which six digits count. -/
def microseconds (text : List Char) : Nat × List Char :=
  match text with
  | '.' :: rest =>
      let (digits, after) := Decimal.spanDigits rest
      if digits.isEmpty then (0, text)
      else
        let counted := digits.take 6
        (Decimal.ofDigits 10 (counted ++ List.replicate (6 - counted.length) '0'), after)
  | _ => (0, text)

/-- A time of day. -/
def clock? (text : List Char) : Option (Clock × List Char) := do
  let (hour, text) ← twoDigits? 0 23 text
  let (minute, text) ← twoDigits? 0 59 (← mark? ':' text)
  let (second, text) ← twoDigits? 0 59 (← mark? ':' text)
  let (fraction, text) := microseconds text
  return (⟨hour, minute, second, fraction⟩, text)

/-- A day of the calendar, which may not exist. -/
def day? (text : List Char) : Option (Date × List Char) := do
  let year := text.take 4
  guard (year.length = 4 && year.all Char.isDigit)
  let (month, text) ← twoDigits? 1 12 (← mark? '-' (text.drop 4))
  let (day, text) ← twoDigits? 1 31 (← mark? '-' text)
  return (⟨Decimal.ofDigits 10 year, month, day⟩, text)

/-- The minutes by which clocks are ahead. -/
def offset? (text : List Char) : Taken Int :=
  let amount (negative : Bool) (text : List Char) : Option (Int × List Char) := do
    let (hours, text) ← twoDigits? 0 23 text
    let (minutes, text) ← twoDigits? 0 59 (← mark? ':' text)
    let size : Int := hours * 60 + minutes
    return (if negative then -size else size, text)
  match text with
  | 'Z' :: rest | 'z' :: rest => some (0, rest)
  | '+' :: rest => amount false rest
  | '-' :: rest => amount true rest
  | _ => none

/-- The time of day after a date and its separator. -/
def afterDate? (text : List Char) : Taken Clock :=
  match text with
  | c :: rest => if c == 'T' || c == 't' || c == ' ' then clock? rest else none
  | [] => none

/-- A date, a time, or both. -/
def moment? (text : List Char) : Taken Moment :=
  match day? text with
  | none => (clock? text).map fun (clock, rest) => (.time clock, rest)
  | some (date, afterDay) =>
      match afterDate? afterDay with
      | none => some (.date date, afterDay)
      | some (clock, afterClock) =>
          match offset? afterClock with
          | none => some (.dateTime date clock none, afterClock)
          | some (offset, rest) => some (.dateTime date clock (some offset), rest)

/-- A date, a time, or both, if it exists. -/
def date? (text : List Char) : Taken Denoted :=
  (moment? text).map fun (moment, rest) =>
    (if moment.problem?.isNone then .ok (.moment moment) else .error .malformed, rest)

end Toml
end ApiTypings
