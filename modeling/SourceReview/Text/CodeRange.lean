/-!
# Classes of characters given by ranges

Large character classes are tables of ranges of code points, in ascending order.
-/

namespace SourceReview.Text

/-- Whether the code point of `c` lies in one of the ranges, both ends included. -/
def inRanges (ranges : Array (Nat × Nat)) (c : Char) : Bool :=
  ranges.any fun (first, last) => first ≤ c.toNat && c.toNat ≤ last

end SourceReview.Text
