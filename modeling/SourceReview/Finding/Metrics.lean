/-!
# Metrics

The figures that describe one source text.
-/

namespace SourceReview

/-- The figures of a source text. -/
structure Metrics where
  /-- Heuristic cyclomatic complexity, at least one. -/
  complexity : UInt32 := 1
  /-- An index from 0 to 100. -/
  maintainability : Float := 100
  /-- Lines that are neither blank nor comments. -/
  linesOfCode : Nat := 0
  commentLines : Nat := 0
  /-- Comments in percent of the lines that are not blank. -/
  commentPercentage : Float := 0
  functionCount : Nat := 0
  meanFunctionLength : Float := 0
  /-- Imported names without repetitions. -/
  dependencies : List String := []
  /-- A penalty from 0 to 100. -/
  technicalDebt : Float := 0
  deriving Repr

end SourceReview
