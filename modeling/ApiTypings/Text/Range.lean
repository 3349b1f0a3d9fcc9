/-!
# Ranges of code points

A table of the Unicode standard is a list of ranges of code points, each given by
its first and its last member.
-/

namespace ApiTypings
namespace Text

/-- Whether a code point lies in one of some ranges. -/
def inRanges (ranges : List (Nat × Nat)) (code : Nat) : Bool :=
  ranges.any fun range => range.1 ≤ code && code ≤ range.2

end Text
end ApiTypings
