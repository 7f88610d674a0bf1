import SourceReview.Decimal.Binary

/-!
# Rounded figures

Figures are kept in their range and rounded to two places, a half away from zero.
-/

namespace SourceReview.Score

/-- `x`, or `bound` if `x` is not greater. -/
def atLeast (bound x : Float) : Float := if bound < x then x else bound

/-- `x`, or `bound` if `x` is not smaller. -/
def atMost (bound x : Float) : Float := if x < bound then x else bound

/-- `x` moved into the range from `low` to `high`, where a number that is not comparable stays. -/
def clamp (low high x : Float) : Float := if x < low then low else if high < x then high else x

/-- `x` rounded to two places. -/
def toHundredths (x : Float) : Float := Decimal.toWhole (x * 100) / 100

/-- `x` as a percentage: moved into the range from 0 to 100 and rounded to two places, and zero if
it is not a number. -/
def toPercent (x : Float) : Float := if x.isNaN then 0 else toHundredths (clamp 0 100 x)

/-- A fractional complexity as a whole number, at least one. -/
def wholeComplexity (x : Float) : UInt32 :=
  if x.isNaN || x < 1 then 1 else (Decimal.toWhole x).toUInt32

end SourceReview.Score
