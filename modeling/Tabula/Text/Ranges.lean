/-!
# Sets of characters as ranges of code points

A set of characters is a list of closed ranges, ascending and apart. `inRanges` is membership.
-/

namespace Tabula.Text

/-- Membership of a code point in a list of closed ranges. -/
def inRanges (ranges : List (Nat × Nat)) (n : Nat) : Bool :=
  ranges.any fun r => r.1 ≤ n && n ≤ r.2

end Tabula.Text
