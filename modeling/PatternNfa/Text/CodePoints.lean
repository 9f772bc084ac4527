/-!
# `PatternNfa.Text.CodePoints`: sets of characters given by ranges

A property of characters that a standard lists by code point is kept as its ranges, both ends
included. Membership looks through the ranges in order, which is fast enough for single
characters and easy to evaluate inside a proof.
-/

set_option autoImplicit false

namespace PatternNfa.Text

/-- A set of code points as inclusive ranges. -/
abbrev CodePoints := List (Nat × Nat)

/-- The character's code point lies in one of the ranges. -/
def CodePoints.contains (ranges : CodePoints) (c : Char) : Bool :=
  ranges.any fun range => decide (range.1 ≤ c.toNat) && decide (c.toNat ≤ range.2)

end PatternNfa.Text
