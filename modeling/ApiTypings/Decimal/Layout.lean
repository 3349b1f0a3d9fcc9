import ApiTypings.Decimal.Shortest

/-!
# Texts of floats

The digits of a float come from its shortest decimal; a layout says how they
are written.
-/

namespace ApiTypings
namespace Decimal

/-- The decisions of a format for floats. -/
structure Layout where
  /-- The least place of a leading digit that is written without exponent. -/
  positionalFrom : Int
  /-- The least place above that from which an exponent is written again. -/
  positionalBelow : Int
  /-- The least number of digits of an exponent. -/
  exponentWidth : Nat
  infinity : String
  notANumber : String

/-- The format of a float outside JSON. -/
def Layout.plain : Layout := ⟨-4, 16, 2, "inf", "nan"⟩

/-- The format of a float in JSON text and in type expressions. -/
def Layout.json : Layout := ⟨-4, 16, 2, "Infinity", "NaN"⟩

/-- Decimal digits of a natural number. -/
def digits (n : Nat) : List Char :=
  Nat.toDigits 10 n

/-- Zeros in front of a text up to a width. -/
def padLeft (width : Nat) (text : List Char) : List Char :=
  List.replicate (width - text.length) '0' ++ text

namespace Layout

/-- A positive exponent keeps its sign. -/
def exponentText (layout : Layout) (exponent : Int) : List Char :=
  'e' :: (if exponent < 0 then '-' else '+') ::
    padLeft layout.exponentWidth (digits exponent.natAbs)

/-- Digits with a decimal point and at least one digit on either side of it,
`lead` being the place of the first digit. -/
def positional (significand : List Char) (lead : Int) : List Char :=
  if lead < 0 then
    '0' :: '.' :: (List.replicate (-lead - 1).toNat '0' ++ significand)
  else
    let whole := lead.toNat + 1
    let front := significand.take whole
    let back := significand.drop whole
    front ++ List.replicate (whole - front.length) '0' ++
      '.' :: (if back.isEmpty then ['0'] else back)

/-- Digits with an exponent. -/
def scientific
    (layout : Layout)
    (significand : List Char)
    (lead : Int) :
    List Char :=
  let point :=
    match significand with
    | first :: second :: rest => first :: '.' :: second :: rest
    | short => short
  point ++ layout.exponentText lead

/-- The text of a numeral. -/
def numeralText (layout : Layout) (numeral : Numeral) : List Char :=
  let significand := digits numeral.significand
  let lead := numeral.exponent + significand.length - 1
  if layout.positionalFrom ≤ lead ∧ lead < layout.positionalBelow then
    positional significand lead
  else layout.scientific significand lead

/-- The text of a float. -/
def text (layout : Layout) (x : Float) : String :=
  match Reading.ofFloat x with
  | .notANumber => layout.notANumber
  | .infinite negative => (if negative then "-" else "") ++ layout.infinity
  | .finite negative magnitude =>
      (if negative then "-" else "") ++
        String.ofList (layout.numeralText (shortest magnitude))

end Layout

end Decimal
end ApiTypings
