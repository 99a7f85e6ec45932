/-!
Sets of characters, given as closed ranges of code points in increasing order.
-/

namespace Multifiling.Text

/-- Closed ranges of code points, in increasing order and apart from each other. -/
abbrev Ranges := List (Nat × Nat)

/-- Whether a code point lies in a range; the search ends at the first range above it. -/
def Ranges.holds : Ranges → Nat → Bool
  | [], _ => false
  | (low, high) :: rest, n => low ≤ n && (n ≤ high || Ranges.holds rest n)

def Ranges.has (ranges : Ranges) (c : Char) : Bool := ranges.holds c.toNat

end Multifiling.Text
