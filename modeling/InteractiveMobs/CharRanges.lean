/-!
# Ranges of characters

Classes of characters, as ranges of their code points.
-/

namespace InteractiveMobs
set_option autoImplicit false

/-- Ranges of code points, each by its first and its last. -/
abbrev CharRanges := List (Nat × Nat)

/-- Whether a character is in one of the ranges. -/
def isIn (ranges : CharRanges) (c : Char) : Bool :=
  ranges.any fun r => r.1 ≤ c.toNat && c.toNat ≤ r.2

end InteractiveMobs
