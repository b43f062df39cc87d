/-!
Sets of characters given as ascending ranges of code points, the form in which tables of character
properties are written.
-/

namespace CommandShell

/-- Ranges of code points, both ends included, in ascending order. -/
abbrev CodeRanges := List (Nat × Nat)

/-- Whether a code point lies in one of the ranges. The search ends at the first range above it. -/
def CodeRanges.contains : CodeRanges → Nat → Bool
  | [], _ => false
  | (low, high) :: rest, n => if n < low then false else n ≤ high || CodeRanges.contains rest n

end CommandShell
