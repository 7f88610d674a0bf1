import SourceReview.Listing.Basic
import SourceReview.Pattern.Search
import SourceReview.Total

/-!
# Complexity

The complexity of a text is one plus the weights of the branch points in its code. Weights are
counted in halves, and the sum is rounded up to a whole number.
-/

namespace SourceReview.Score

/-- A kind of branch point: a pattern, its weight in halves, and the lines in which it counts. -/
structure Weight where
  pattern : Pattern
  halves : Nat
  counts : List Char → Bool := fun _ => true

/-- The weight of all branch points of one kind in a line, in halves. -/
def Weight.inLine (w : Weight) (code : List Char) : Nat :=
  if w.counts code then w.halves * w.pattern.count code else 0

/-- The weight of all branch points in a line, in halves. -/
def lineHalves (weights : List Weight) (code : List Char) : Nat :=
  total (weights.map (·.inLine code))

/-- The weight of all branch points in the code of a listing, in halves. -/
def listingHalves (weights : List Weight) (lines : List SourceLine) : Nat :=
  total ((codeLines lines).map fun l => lineHalves weights l.code)

/-- A number of halves rounded to a whole number, a half up, and kept within 32 bits. -/
def wholeOfHalves (halves : Nat) : UInt32 :=
  let whole := (halves + 1) / 2
  if whole < UInt32.size then UInt32.ofNat whole else 0xFFFFFFFF

/-- The complexity of the code in a listing. -/
def ofListing (weights : List Weight) (lines : List SourceLine) : UInt32 :=
  wholeOfHalves (2 + listingHalves weights lines)

/-- The complexity of a source text. -/
def complexity (style : CommentStyle) (weights : List Weight) (text : List Char) : UInt32 :=
  ofListing weights (listing style text)

/-- Words that change the flow of control in some language. -/
def controlFlow : Pattern :=
  .keyword ["if", "elif", "for", "foreach", "while", "switch", "case", "catch", "except"]

/-- The complexity of a text in a language without weights of its own: one plus the number of lines
with a control flow word. -/
def plainComplexity (style : CommentStyle) (text : List Char) : UInt32 :=
  1 + UInt32.ofNat ((codeLines (listing style text)).countP fun l => controlFlow.occurs l.code)

end SourceReview.Score
