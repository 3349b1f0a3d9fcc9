/-!
# The size of integers

Integers are unbounded, but only those of a bounded number of decimal digits can
be read from decimal digits or written as such, and only those of 64 bits can be
indices.
-/

namespace ApiTypings
namespace Decimal

/-- The largest number of decimal digits. -/
def digitLimit : Nat := 4300

/-- Whether an integer can be written in decimal digits. -/
def isWritable (number : Int) : Bool :=
  number.natAbs < Nat.pow 10 digitLimit

/-- That an integer cannot be written or, given its digits, read. -/
def limitMessage (digits : Option Nat) : String :=
  "Exceeds the limit (" ++ toString digitLimit ++ " digits) for integer string conversion" ++
    (digits.map fun count => ": value has " ++ toString count ++ " digits").getD "" ++
    "; use sys.set_int_max_str_digits() to increase the limit"

/-- Whether an integer can be an index. -/
def isIndex (number : Int) : Bool :=
  -Int.pow 2 63 ≤ number && number < Int.pow 2 63

/-- Whether no list has a length: it is no index, or the items would take more
bytes than there are indices. -/
def isOverlong (length : Int) : Bool :=
  !isIndex length || Int.pow 2 60 ≤ length

/-- That no list has a length. Nothing is said about one that is an index. -/
def overlongMessage (length : Int) : String :=
  if isIndex length then "" else "cannot fit 'int' into an index-sized integer"

end Decimal
end ApiTypings
