import ApiTypings.Decimal.Limit
import ApiTypings.Decimal.Numeral
import ApiTypings.Text.Hex
import ApiTypings.Text.SingleQuoted
import ApiTypings.Value

/-!
# Scalars

The kind and the value of a word without quotes, by the rules of YAML 1.1: words
for `null` and for booleans, integers in four bases and in base sixty, floats,
and dates. Every other word is a text.
-/

namespace ApiTypings
namespace Yaml

/-- Why a text is no document. -/
inductive Fault
  | malformed
  | impossible (reason : String)
  deriving DecidableEq, Repr

/-- The kinds of scalars. -/
inductive Kind
  | null
  | bool
  | int
  | float
  | moment
  | text
  /-- The key under which other mappings are merged. -/
  | merge
  /-- The key of the default value of a mapping. -/
  | default
  deriving DecidableEq, Repr

/-- The words for `null`. -/
def nullWords : List String := ["", "~", "null", "Null", "NULL"]

/-- The words for true. -/
def trueWords : List String :=
  ["yes", "Yes", "YES", "true", "True", "TRUE", "on", "On", "ON"]

/-- The words for false. -/
def falseWords : List String :=
  ["no", "No", "NO", "false", "False", "FALSE", "off", "Off", "OFF"]

/-- A sign, and what follows it. -/
def splitSign : List Char → Bool × List Char
  | '-' :: rest => (true, rest)
  | '+' :: rest => (false, rest)
  | text => (false, text)

/-- A text without underscores. -/
def withoutUnderscores (text : List Char) : List Char :=
  text.filter (· != '_')

/-- Whether a text consists of digits of a kind and underscores, and is not
empty. -/
def isRun (isDigit : Char → Bool) (text : List Char) : Bool :=
  !text.isEmpty && text.all fun c => isDigit c || c == '_'

/-- Whether a text is a digit, followed by digits and underscores. -/
def isNumeral (isFirst : Char → Bool) : List Char → Bool
  | [] => false
  | first :: rest => isFirst first && rest.all fun c => c.isDigit || c == '_'

/-- Whether a text is a number below sixty after a colon. -/
def isSixtieth : List Char → Bool
  | [a] => a.isDigit
  | [a, b] => '0' ≤ a && a ≤ '5' && b.isDigit
  | _ => false

/-- Whether a character is a decimal digit other than zero. -/
def isPositiveDigit (c : Char) : Bool :=
  c.isDigit && c != '0'

/-- Whether a text is an integer without its sign. -/
def isNatural (text : List Char) : Bool :=
  match text with
  | '0' :: 'b' :: digits => isRun (fun c => c == '0' || c == '1') digits
  | '0' :: 'x' :: digits => isRun Text.isHexDigit digits
  | ['0'] => true
  | '0' :: digits => isRun (fun c => '0' ≤ c && c ≤ '7') digits
  | _ =>
      match Text.splitAt ':' text with
      | first :: sixtieths => isNumeral isPositiveDigit first && sixtieths.all isSixtieth
      | [] => false

/-- Whether a text is an integer. -/
def isInteger (text : List Char) : Bool :=
  isNatural (splitSign text).2

/-- The number that digits of a base denote. -/
def ofBase (base : Nat) (isDigit : Char → Bool) (digits : List Char) : Except Fault Nat :=
  if digits.isEmpty || !digits.all isDigit then
    .error (.impossible ("invalid literal for int() with base " ++ toString base ++ ": " ++
      Text.singleQuoted (String.ofList digits)))
  else if base == 10 && Decimal.digitLimit < digits.length then
    .error (.impossible (Decimal.limitMessage (some digits.length)))
  else .ok (Decimal.ofDigits base digits)

/-- The number that decimal digits denote. -/
def ofDecimal (digits : List Char) : Except Fault Nat :=
  ofBase 10 Char.isDigit digits

/-- The integer that a text without its sign denotes. -/
def natural (text : List Char) : Except Fault Nat :=
  match text with
  | '0' :: 'b' :: digits => ofBase 2 (fun c => c == '0' || c == '1') digits
  | '0' :: 'x' :: digits => ofBase 16 Text.isHexDigit digits
  | '0' :: _ => ofBase 8 (fun c => '0' ≤ c && c ≤ '7') text
  | _ => do
      let parts ← (Text.splitAt ':' text).mapM ofDecimal
      return parts.foldl (fun total part => total * 60 + part) 0

/-- The integer that a text denotes. -/
def integer (text : List Char) : Except Fault Int := do
  let (negative, digits) := splitSign (withoutUnderscores text)
  let size ← natural digits
  return if negative then -(size : Int) else size

/-- Whether a text is empty or an exponent with a sign. -/
def isExponent : List Char → Bool
  | [] => true
  | mark :: sign :: digits =>
      (mark == 'e' || mark == 'E') && (sign == '-' || sign == '+') && !digits.isEmpty &&
        digits.all Char.isDigit
  | _ => false

/-- Whether a text is a float with a point and an optional exponent. -/
def isPointed (text : List Char) : Bool :=
  let whole := text.takeWhile (· != '.')
  match text.dropWhile (· != '.') with
  | '.' :: rest =>
      let exponent := rest.dropWhile fun c => c.isDigit || c == '_'
      isExponent exponent &&
        if whole.isEmpty then (rest.head?.map Char.isDigit).getD false
        else isNumeral Char.isDigit whole
  | _ => false

/-- Whether a text is a float in base sixty: numerals between colons, the last
one with a point. -/
def isSixtyFloat (text : List Char) : Bool :=
  let whole := text.takeWhile (· != '.')
  match Text.splitAt ':' whole, text.dropWhile (· != '.') with
  | first :: sixtieths, '.' :: fraction =>
      !sixtieths.isEmpty && isNumeral Char.isDigit first && sixtieths.all isSixtieth &&
        fraction.all fun c => c.isDigit || c == '_'
  | _, _ => false

/-- Whether a text is a word for infinity, without its sign. -/
def isInfinite (text : List Char) : Bool :=
  [".inf", ".Inf", ".INF"].contains (String.ofList text)

/-- Whether a text is a word for what is no number. -/
def isNotANumber (text : List Char) : Bool :=
  [".nan", ".NaN", ".NAN"].contains (String.ofList text)

/-- Whether a text is a float. A sign cannot stand before a point. -/
def isFloat (text : List Char) : Bool :=
  let body := (splitSign text).2
  isInfinite body || isNotANumber text ||
    (isPointed body && (body.head? != some '.' || body == text)) || isSixtyFloat body

/-- The float that decimal digits denote. -/
def ofDecimalFloat (text : List Char) : Except Fault Float :=
  match Decimal.signedFloat? text with
  | some number => .ok number
  | none =>
      .error (.impossible ("could not convert string to float: " ++
        Text.singleQuoted (String.ofList text)))

/-- The float that a text denotes. -/
def float (text : List Char) : Except Fault Float := do
  let (negative, body) := splitSign (Text.lowerAscii (withoutUnderscores text))
  let signed (number : Float) := if negative then -number else number
  if isInfinite body then return signed (1.0 / 0.0)
  else if isNotANumber body then return 0.0 / 0.0
  else if body.contains ':' then
    let parts ← (Text.splitAt ':' body).mapM ofDecimalFloat
    let sum := parts.reverse.foldl
      (fun (state : Float × Float) part => (state.1 + part * state.2, state.2 * 60.0)) (0.0, 1.0)
    return signed sum.1
  else return signed (← ofDecimalFloat body)

/-- One or two digits, or exactly two if so asked, and what follows them. -/
def shortNumber? (exact : Bool) (text : List Char) : Option (List Char × List Char) :=
  match text with
  | a :: b :: rest =>
      if a.isDigit && b.isDigit then some ([a, b], rest)
      else if a.isDigit && !exact then some ([a], b :: rest)
      else none
  | [a] => if a.isDigit && !exact then some ([a], []) else none
  | [] => none

/-- The rest of a text after a character. -/
def after? (mark : Char) : List Char → Option (List Char)
  | c :: rest => if c = mark then some rest else none
  | [] => none

/-- The day at the start of a text. Unless it is all there is, month and day may
have one digit. -/
def day? (text : List Char) : Option (Date × List Char) := do
  let year := text.take 4
  guard (year.length = 4 && year.all Char.isDigit)
  let (month, afterMonth) ← shortNumber? false (← after? '-' (text.drop 4))
  let (day, rest) ← shortNumber? false (← after? '-' afterMonth)
  guard (!rest.isEmpty || (month.length = 2 && day.length = 2))
  return (⟨Decimal.ofDigits 10 year, Decimal.ofDigits 10 month, Decimal.ofDigits 10 day⟩, rest)

/-- What separates a day from a time. -/
def separated? (text : List Char) : Option (List Char) :=
  match text with
  | c :: rest =>
      if c == 'T' || c == 't' then some rest
      else if c == ' ' || c == '\t' then some (rest.dropWhile fun c => c == ' ' || c == '\t')
      else none
  | [] => none

/-- The time of day at the start of a text, to the millionth of a second. -/
def clock? (text : List Char) : Option (Clock × List Char) := do
  let (hour, afterHour) ← shortNumber? false text
  let (minute, afterMinute) ← shortNumber? true (← after? ':' afterHour)
  let (second, rest) ← shortNumber? true (← after? ':' afterMinute)
  let (places, rest) :=
    match rest with
    | '.' :: more => Decimal.spanDigits more
    | _ => ([], rest)
  let counted := places.take 6
  let fraction := counted ++ List.replicate (6 - counted.length) '0'
  return (⟨Decimal.ofDigits 10 hour, Decimal.ofDigits 10 minute, Decimal.ofDigits 10 second,
    Decimal.ofDigits 10 fraction⟩, rest)

/-- The offset that makes up a text. -/
def offset? (text : List Char) : Option (Option Int) :=
  let amount (negative : Bool) (text : List Char) : Option (Option Int) := do
    let (hours, rest) ← shortNumber? false text
    let minutes ←
      match rest with
      | [] => some 0
      | _ =>
          match shortNumber? true (← after? ':' rest) with
          | some (digits, []) => some (Decimal.ofDigits 10 digits)
          | _ => none
    let size : Int := Decimal.ofDigits 10 hours * 60 + minutes
    return some (if negative then -size else size)
  match text.dropWhile fun c => c == ' ' || c == '\t' with
  | [] => if text.isEmpty then some none else none
  | ['Z'] => some (some 0)
  | '+' :: rest => amount false rest
  | '-' :: rest => amount true rest
  | _ => none

/-- The moment that a text denotes, which may not exist: a day, or a day with a
time and an optional offset. -/
def moment? (text : List Char) : Option Moment := do
  let (date, rest) ← day? text
  if rest.isEmpty then return .date date
  else
    let (clock, afterClock) ← clock? (← separated? rest)
    return .dateTime date clock (← offset? afterClock)

/-- The kind of a plain scalar. -/
def Kind.ofPlain (text : List Char) : Kind :=
  let word := String.ofList text
  if trueWords.contains word || falseWords.contains word then .bool
  else if isFloat text then .float
  else if isInteger text then .int
  else if word == "<<" then .merge
  else if nullWords.contains word then .null
  else if (moment? text).isSome then .moment
  else if word == "=" then .default
  else .text

/-- The value of a scalar of a kind. -/
def Kind.value (kind : Kind) (content : String) : Except Fault Value :=
  let text := content.toList
  match kind with
  | .null => .ok .null
  | .bool =>
      let word := String.ofList (Text.lowerAscii text)
      if trueWords.contains word then .ok (.bool true)
      else if falseWords.contains word then .ok (.bool false)
      else .error .malformed
  | .int => (integer text).map .int
  | .float => (Yaml.float text).map .float
  | .moment =>
      match moment? text with
      | none => .error .malformed
      | some found =>
          match found.problem? with
          | some problem => .error (.impossible problem.message)
          | none => .ok (.moment found)
  | .text => .ok (.text content)
  | .merge | .default => .error .malformed

end Yaml
end ApiTypings
