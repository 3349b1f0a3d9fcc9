/-!
# Shortest decimals

A finite float stands for an interval of reals that round to it. Among the
decimals in that interval the shortest one is chosen, the nearest among several
of that length, and the even one of two that are equally near. All arithmetic
is on natural numbers.
-/

namespace ApiTypings
namespace Decimal

/-- The number `significand · 10 ^ exponent`. -/
structure Numeral where
  significand : Nat
  exponent : Int
  deriving DecidableEq, Repr

/-- The positive number `mantissa · 2 ^ exponent` with a mantissa of at most 53
bits. -/
structure Binary where
  mantissa : Nat
  exponent : Int
  deriving DecidableEq, Repr

/-- What the bits of a float stand for. -/
inductive Reading
  | notANumber
  | infinite (negative : Bool)
  | finite (negative : Bool) (magnitude : Binary)
  deriving DecidableEq, Repr

/-- Read the sign, exponent and fraction fields of a float. -/
def Reading.ofFloat (x : Float) : Reading :=
  let bits := x.toBits.toNat
  let negative := bits / Nat.pow 2 63 == 1
  let field : Nat := bits / Nat.pow 2 52 % Nat.pow 2 11
  let fraction : Nat := bits % Nat.pow 2 52
  if field = 2047 then
    if fraction = 0 then .infinite negative else .notANumber
  else if field = 0 then .finite negative ⟨fraction, -1074⟩
  else .finite negative ⟨Nat.pow 2 52 + fraction, (field : Int) - 1075⟩

namespace Binary

/-- The distance from the number down to the end of its interval, in quarters
of its last place: the neighbour below a power of two is nearer. -/
def gapBelow (x : Binary) : Nat :=
  if x.mantissa = Nat.pow 2 52 ∧ -1074 < x.exponent then 1 else 2

/-- The number, the ends of its interval and the step of a decimal grid, all in
one common unit. -/
structure Scaled where
  value : Nat
  low : Nat
  high : Nat
  step : Nat

/-- Measure a number against the grid of multiples of `10 ^ place`. -/
def scaled (x : Binary) (place : Int) : Scaled :=
  let unit := Nat.pow 2 (x.exponent - 2).toNat * Nat.pow 10 (-place).toNat
  { value := 4 * x.mantissa * unit
    low := (4 * x.mantissa - x.gapBelow) * unit
    high := (4 * x.mantissa + 2) * unit
    step := Nat.pow 10 place.toNat * Nat.pow 2 (2 - x.exponent).toNat }

/-- The grid point that stands for a number, if one of its two neighbours on
the grid lies in its interval. The ends belong to the interval of an even
mantissa. -/
def gridPoint? (x : Binary) (place : Int) : Option Nat :=
  let s := x.scaled place
  let inside (point : Nat) : Bool :=
    if x.mantissa % 2 = 0 then s.low ≤ point * s.step && point * s.step ≤ s.high
    else s.low < point * s.step && point * s.step < s.high
  let below := s.value / s.step
  let above := below + 1
  let toBelow := s.value - below * s.step
  let toAbove := above * s.step - s.value
  if inside below && inside above then
    if toBelow < toAbove then some below
    else if toAbove < toBelow then some above
    else if below % 2 = 0 then some below
    else some above
  else if inside below then some below
  else if inside above then some above
  else none

/-- The place of the leading decimal digit: the largest `p` with
`10 ^ p ≤ x`. -/
def leadingPlace (x : Binary) : Int :=
  let s := x.scaled 0
  if s.step ≤ s.value then
    (Nat.toDigits 10 (s.value / s.step)).length - 1
  else
    let count := (Nat.toDigits 10 (s.step / s.value)).length
    if s.step ≤ s.value * Nat.pow 10 (count - 1) then 1 - (count : Int)
    else -(count : Int)

end Binary

/-- The same number without trailing zeros in the significand. -/
def Numeral.normal (significand : Nat) (exponent : Int) : Numeral :=
  if 0 < significand ∧ significand % 10 = 0 then
    normal (significand / 10) (exponent + 1)
  else ⟨significand, exponent⟩
termination_by significand
decreasing_by omega

/-- The shortest decimal that reads back as the number; seventeen digits always
do. -/
def shortest (x : Binary) : Numeral :=
  if x.mantissa = 0 then ⟨0, 0⟩
  else
    let lead := x.leadingPlace
    let found := (List.range 17).findSome? fun (count : Nat) =>
      let place := lead - count
      (x.gridPoint? place).map fun point => Numeral.normal point place
    found.getD ⟨x.mantissa, 0⟩

end Decimal
end ApiTypings
