/-!
# Ranges of code points

Character properties are given as increasing lists of inclusive ranges. `Ranges.contains` looks a code point
up and stops at the first range that lies behind it.
-/

namespace StructForge.Text

/-- Inclusive ranges of code points, in increasing order. -/
abbrev Ranges := List (Nat × Nat)

/-- Whether a code point lies in one of the ranges. -/
def Ranges.contains : Ranges → Nat → Bool
  | [], _ => false
  | (lo, hi) :: rest, n => if n < lo then false else if n ≤ hi then true else Ranges.contains rest n

end StructForge.Text
