/-!
# Sets of characters

A property of characters is kept as the ascending list of the closed ranges of code points that
have it.
-/

namespace LedStudio

/-- A set of characters, as closed ranges of code points. -/
abbrev CharRanges := List (Nat × Nat)

/-- The code point of `c` lies in one of the ranges. -/
def inRanges (ranges : CharRanges) (c : Char) : Bool :=
  ranges.any fun range => range.1 ≤ c.toNat && c.toNat ≤ range.2

end LedStudio
