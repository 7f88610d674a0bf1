import SourceReview.Listing.Basic

/-!
# Line counts

How many lines of a listing are code, comments and blank, and the share of comments.
-/

namespace SourceReview

/-- The numbers of lines of each kind. -/
structure LineTally where
  code : Nat
  comment : Nat
  blank : Nat
  deriving DecidableEq, Repr

namespace LineTally

/-- Counts the lines of a listing. -/
def ofLines (lines : List SourceLine) : LineTally :=
  ⟨lines.countP (·.isCode), lines.countP (·.isComment), lines.countP (·.isBlank)⟩

/-- Comments in percent of all lines that are not blank, and zero if there are none. -/
def commentPercentage (t : LineTally) : Float :=
  if t.code + t.comment = 0 then 0
  else Float.ofNat t.comment / Float.ofNat (t.code + t.comment) * 100

end LineTally

end SourceReview
