/-!
# `GatewayAuth.Text.Ranges` — sets of characters as sorted ranges of code points

`inRanges` is the membership test that the tables of this folder share. It relies on their order: it stops at the
first range that begins above the code point.
-/

namespace GatewayAuth.Text

/-- A set of code points: closed ranges, in increasing order. -/
abbrev Ranges := List (Nat × Nat)

/-- Whether a code point lies in one of the ranges. -/
def inRanges : Ranges → Nat → Bool
  | [], _ => false
  | (low, high) :: rest, n => if n < low then false else if n ≤ high then true else inRanges rest n

end GatewayAuth.Text
