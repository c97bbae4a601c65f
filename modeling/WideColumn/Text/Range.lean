/-!
# Sets of characters as ranges

A character class of Unicode is kept as a list of code point ranges, both ends included.
-/

namespace WideColumn.Text

/-- Whether some range holds the code point of `c`. -/
def inRanges (ranges : List (Nat × Nat)) (c : Char) : Bool :=
  ranges.any fun (low, high) => low ≤ c.toNat && c.toNat ≤ high

end WideColumn.Text
