/-!
# Sets of characters as ranges of code points

A property of characters that a standard gives as a table is kept as the list of its ranges, each
by its first and last code point, in increasing order and with gaps between them.
-/

namespace SqlSelect.Text

/-- The first and the last code point of each range. -/
abbrev CodePoints := List (Nat × Nat)

/-- Whether a character lies in one of the ranges. -/
def CodePoints.has (ranges : CodePoints) (c : Char) : Bool :=
  ranges.any fun range => decide (range.1 ≤ c.toNat) && decide (c.toNat ≤ range.2)

end SqlSelect.Text
