/-
Sets of numbers given by their ranges in rising order.

A property of code points is a table of closed ranges.  Looking a number up walks
the table and stops at the first range that lies above it, so small numbers, which
are the common ones, are found at once.
-/

namespace PatchReview

/-- Closed ranges, the lower ones first. -/
abbrev Ranges := List (Nat × Nat)

namespace Ranges

/-- Whether some range of a rising table holds `n`. -/
def holds (n : Nat) : Ranges → Bool
  | [] => false
  | (low, high) :: rest => if n < low then false else n ≤ high || holds n rest

end Ranges

end PatchReview
