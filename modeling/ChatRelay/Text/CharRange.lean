/-!
# Sets of characters as ranges

A property of characters that no rule describes is a table: the first and last characters of the
ranges that have it.
-/
namespace ChatRelay.Text

/-- Whether a character lies in one of the ranges. -/
def inRanges (ranges : List (Nat × Nat)) (c : Char) : Bool :=
  ranges.any fun r => r.1 ≤ c.toNat && c.toNat ≤ r.2

end ChatRelay.Text
