import ApiTypings.Text.Blank

/-!
# Reading numbers

Decimal texts as integers and floats. Plain integers are what JSON writes;
`integer` and `float?` also accept the looser forms that a number given as
text may have.
-/

namespace ApiTypings
namespace Decimal

/-- The value of a digit text in a base. -/
def ofDigits (base : Nat) (text : List Char) : Nat :=
  text.foldl
    (fun total c =>
      let digit :=
        if c.isDigit then c.toNat - '0'.toNat
        else if c.isLower then c.toNat - 'a'.toNat + 10
        else c.toNat - 'A'.toNat + 10
      total * base + digit)
    0

/-- The float nearest to `significand · 10 ^ exponent`. Exponents far outside
the range of floats give infinity or zero without computing the power. -/
def toFloat (negative : Bool) (significand : Nat) (exponent : Int) : Float :=
  let length : Int := (Nat.toDigits 10 significand).length
  let magnitude : Float :=
    if significand = 0 then 0.0
    else if 320 < length + exponent then 1.0 / 0.0
    else if length + exponent < -340 then 0.0
    else Float.ofScientific significand (exponent < 0) exponent.natAbs
  if negative then -magnitude else magnitude

/-- A float that holds an integer, as that integer. -/
def integral? (x : Float) : Option Int :=
  if x.isFinite && x.floor == x then
    let magnitude := x.abs
    let bits := magnitude.toBits.toNat
    let field := bits / Nat.pow 2 52 % Nat.pow 2 11
    let mantissa := Nat.pow 2 52 + bits % Nat.pow 2 52
    let whole : Nat :=
      if field = 0 then 0
      else if 1075 ≤ field then mantissa * Nat.pow 2 (field - 1075)
      else mantissa / Nat.pow 2 (1075 - field)
    some (if x < 0.0 then -(whole : Int) else whole)
  else none

/-- The float nearest to an integer, unless that is infinite. -/
def ofInt? (n : Int) : Option Float :=
  let x := toFloat (n < 0) n.natAbs 0
  if x.isFinite then some x else none

/-- Why a text is no integer. -/
inductive IntegerFault
  | malformed
  | oversized
  deriving DecidableEq, Repr

/-- The largest number of characters of an integer given as text. -/
def integerLimit : Nat := 4300

/-- An integer in plain digits without leading zeros, with or without a minus
sign. A run of digits that is too long is refused whatever follows it. -/
def plainInteger (text : List Char) : Except IntegerFault Int :=
  let (negative, digits) :=
    match text with
    | '-' :: rest => (true, rest)
    | rest => (false, rest)
  let run := digits.takeWhile Char.isDigit
  match run with
  | [] => .error .malformed
  | ['0'] => if digits.length = 1 then .ok 0 else .error .malformed
  | '0' :: _ => .error .malformed
  | _ =>
      if integerLimit < run.length + (if negative then 1 else 0) then .error .oversized
      else if run.length < digits.length then .error .malformed
      else .ok (if negative then -(ofDigits 10 run : Int) else ofDigits 10 run)

/-- Drop leading zeros, and underscores among them, but keep one zero when no
other digit follows. A text that starts with neither digit nor minus sign is
refused. -/
def dropLeadingZeros (text : List Char) : Option (List Char) :=
  match text with
  | '0' :: rest =>
      match rest.dropWhile (fun c => c == '0' || c == '_') with
      | [] => some [text.getLast?.getD '0']
      | '.' :: more =>
          let zeros := rest.takeWhile (fun c => c == '0' || c == '_')
          some ((('0' :: zeros).getLast?.getD '0') :: '.' :: more)
      | c :: more => if c.isDigit || c == '-' then some (c :: more) else none
  | c :: _ => if c.isDigit || c == '-' then some text else none
  | [] => none

/-- Drop a decimal point that only zeros follow. -/
def dropZeroFraction (text : List Char) : List Char :=
  let whole := text.takeWhile (· != '.')
  match text.dropWhile (· != '.') with
  | _ :: fraction =>
      if !fraction.isEmpty && fraction.all (· == '0') then whole else text
  | [] => text

/-- Drop single underscores inside a text. -/
def dropUnderscores? (text : List Char) : Option (List Char) :=
  if text.head? == some '_' || text.getLast? == some '_' || !text.contains '_' ||
      Text.hasPart ['_', '_'] text then
    none
  else some (text.filter (· != '_'))

/-- A text without white space at either end. -/
def trimSpace (text : List Char) : List Char :=
  let front := text.dropWhile Text.isWhiteSpace
  (front.reverse.dropWhile Text.isWhiteSpace).reverse

/-- A text without the plus sign at its start, which no minus sign may follow. -/
def dropPlus? : List Char → Option (List Char)
  | '+' :: '-' :: _ => none
  | '+' :: rest => some rest
  | text => some text

/-- The plain form of an unsigned integer given as text: leading zeros, single
underscores and a fraction of zeros are dropped. -/
def plainForm? (text : List Char) : Option (List Char) :=
  (dropLeadingZeros text).map fun short =>
    let whole := dropZeroFraction short
    (dropUnderscores? whole).getD whole

/-- An integer given as text: blanks around it, a sign, leading zeros, single
underscores and a fraction of zeros are allowed. -/
def integer (text : List Char) : Except IntegerFault Int :=
  match plainInteger text with
  | .ok number => .ok number
  | .error .oversized => .error .oversized
  | .error .malformed =>
      let form :=
        match dropPlus? (trimSpace text) with
        | some ('-' :: body) => (plainForm? body).map ('-' :: ·)
        | some body => plainForm? body
        | none => none
      match form with
      | some plain => plainInteger plain
      | none => .error .malformed

/-- The digits at the start of a text and what follows them. -/
def spanDigits (text : List Char) : List Char × List Char :=
  (text.takeWhile Char.isDigit, text.dropWhile Char.isDigit)

/-- The exponent part of a float: its value, if it is well formed and nothing
follows it. -/
def exponent? : List Char → Option Int
  | [] => some 0
  | mark :: rest =>
      if mark == 'e' || mark == 'E' then
        let (negative, body) :=
          match rest with
          | '-' :: more => (true, more)
          | '+' :: more => (false, more)
          | more => (false, more)
        if body.isEmpty || !body.all Char.isDigit then none
        else
          let size : Int := ofDigits 10 body
          some (if negative then -size else size)
      else none

/-- An unsigned float: a number with optional point and exponent, `inf`,
`infinity` or `nan` in any case. -/
def magnitude? (negative : Bool) (text : List Char) : Option Float :=
  let (whole, afterWhole) := spanDigits text
  let (fraction, rest) :=
    match afterWhole with
    | '.' :: more => spanDigits more
    | more => ([], more)
  if whole.isEmpty && fraction.isEmpty then
    let word := Text.lowerAscii text
    let infinite : Float := if negative then -1.0 / 0.0 else 1.0 / 0.0
    if word == "inf".toList || word == "infinity".toList then some infinite
    else if word == "nan".toList then some (0.0 / 0.0)
    else none
  else
    (exponent? rest).map fun exponent =>
      toFloat negative (ofDigits 10 (whole ++ fraction)) (exponent - fraction.length)

/-- A float with an optional sign. -/
def signedFloat? : List Char → Option Float
  | '-' :: rest => magnitude? true rest
  | '+' :: rest => magnitude? false rest
  | text => magnitude? false text

/-- A float given as text: blanks around it or single underscores are
allowed. -/
def float? (text : List Char) : Option Float :=
  match signedFloat? (trimSpace text) with
  | some x => some x
  | none => (dropUnderscores? text).bind signedFloat?

end Decimal
end ApiTypings
