import SourceReview.Finding.Metrics
import SourceReview.Score.Rounding

/-!
# Maintainability and technical debt

The maintainability of a text starts from 100 and falls with complexity, long functions, size and
missing comments, at a rate that each language sets for itself. Technical debt sums up penalties
for high complexity, low maintainability and few comments.
-/

namespace SourceReview.Score

/-- The complexity beyond one, as a number. -/
def excessComplexity (m : Metrics) : Float :=
  ((if m.complexity < 1 then 1 else m.complexity) - 1).toFloat

/-- What few comments cost and many bring. -/
structure CommentTerms where
  /-- The percentage of comments that is asked for. -/
  wanted : Float
  /-- The loss for each percent that is missing. -/
  rate : Float
  /-- The gain for each percent, and the greatest gain, where there is one. -/
  bonus : Option (Float × Float) := none

/-- The rates at which a language loses maintainability. -/
structure Upkeep where
  /-- The loss for each unit of complexity beyond one. -/
  complexityRate : Float
  /-- The greatest loss by complexity. -/
  complexityCap : Float
  /-- The mean length up to which functions cost nothing. -/
  functionLength : Float
  /-- The loss for each further line of the mean length. -/
  lengthRate : Float
  /-- The number of lines that cost one point, where size counts. -/
  linesPerPoint : Option Float
  comments : CommentTerms
  /-- Whether each dependency costs half a point. -/
  countsDependencies : Bool := false

/-- The maintainability of a text at given rates. -/
def Upkeep.maintainability (u : Upkeep) (m : Metrics) : Float :=
  let index := 100 - atMost u.complexityCap (excessComplexity m * u.complexityRate)
  let index :=
    index - atMost 20 (atLeast 0 (m.meanFunctionLength - u.functionLength) * u.lengthRate)
  let index :=
    match u.linesPerPoint with
    | some lines => index - atMost 15 (Float.ofNat m.linesOfCode / lines)
    | none => index
  let index :=
    if m.commentPercentage < u.comments.wanted then
      index - (u.comments.wanted - m.commentPercentage) * u.comments.rate
    else
      match u.comments.bonus with
      | some (rate, cap) => index + atMost cap (m.commentPercentage * rate)
      | none => index
  let index :=
    if u.countsDependencies then index - atMost 10 (Float.ofNat m.dependencies.length * 0.5)
    else index
  toPercent index

/-- The maintainability of a text in a language without rates of its own: the mean of a factor for
complexity, one for size and the percentage of comments. -/
def plainMaintainability (m : Metrics) : Float :=
  let complexityFactor := atLeast 0 (100 - 5 * excessComplexity m)
  let sizeFactor := atLeast 0 (100 - Float.ofNat m.linesOfCode / 10)
  let commentFactor := clamp 0 100 m.commentPercentage
  toPercent ((complexityFactor + sizeFactor + commentFactor) / 3)

/-- The technical debt of a text, from 0 to 100. -/
def technicalDebt (m : Metrics) : Float :=
  let debt : Float := 0
  let debt := if 10 < m.complexity then debt + 2 * (m.complexity - 10).toFloat else debt
  let debt := if m.maintainability < 50 then debt + 0.5 * (50 - m.maintainability) else debt
  let debt := if m.commentPercentage < 20 then debt + 0.25 * (20 - m.commentPercentage) else debt
  toHundredths (clamp 0 100 debt)

end SourceReview.Score
