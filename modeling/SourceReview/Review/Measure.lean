import SourceReview.Listing.Tally
import SourceReview.Review.Analyzer

/-!
# Measuring a text

The metrics of a text are taken in order: line counts, outline and complexity first, then the
maintainability, which depends on them, and last the technical debt, which depends on all. What an
analyzer returns is moved into its range.
-/

namespace SourceReview

/-- The greatest technical debt. -/
def maxTechnicalDebt : Float := 100

/-- A technical debt moved into its range, and zero if it is not a number. -/
def boundedDebt (debt : Float) : Float :=
  if debt.isNaN then 0 else Score.toHundredths (Score.clamp 0 maxTechnicalDebt debt)

namespace Analyzer

/-- The metrics of a text that has a given outline, without maintainability and technical debt. -/
def countedMetrics (a : Analyzer) (outline : Outline) (skipDependencies : Bool)
    (text : List Char) : Metrics :=
  let tally := LineTally.ofLines (listing a.comments text)
  let complexity := a.complexity text
  { complexity := if complexity < 1 then 1 else complexity
    maintainability := 0
    linesOfCode := tally.code
    commentLines := tally.comment
    commentPercentage := Score.toPercent tally.commentPercentage
    functionCount := outline.functions.length
    meanFunctionLength := Score.toHundredths outline.meanFunctionLength
    dependencies := if skipDependencies then [] else outline.distinctImports
    technicalDebt := 0 }

/-- The metrics of a text that has a given outline. -/
def metrics (a : Analyzer) (outline : Outline) (skipDependencies : Bool) (text : List Char) :
    Metrics :=
  let counted := a.countedMetrics outline skipDependencies text
  let rated := { counted with maintainability := Score.toPercent (a.maintainability counted) }
  { rated with technicalDebt := boundedDebt (a.technicalDebt rated) }

end Analyzer

end SourceReview
