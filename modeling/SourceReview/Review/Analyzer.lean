import SourceReview.Finding.Issue
import SourceReview.Finding.Metrics
import SourceReview.Finding.Suggestion
import SourceReview.Listing.CommentStyle
import SourceReview.Options.Threshold
import SourceReview.Outline.Basic
import SourceReview.Score.Complexity
import SourceReview.Score.Upkeep

/-!
# Analyzers

An analyzer holds what a review needs to know about a language: how to read its comments, how to
outline, score and check a text, and what to advise. Everything is a function of its arguments, so
an analyzer can serve any number of reviews.
-/

namespace SourceReview

/-- What a review needs to know about a language. The scores default to those of a language without
any of its own. -/
structure Analyzer where
  /-- The name of the language. -/
  id : String
  /-- The extensions of its files, without the dot. -/
  extensions : List String
  comments : CommentStyle := .slashes
  /-- The rules that apply if none are asked for. -/
  defaultRules : List String
  /-- The description of a rule that the analyzer checks. -/
  describe : String → Option String := fun _ => none
  thresholds : Thresholds := {}
  complexity : List Char → UInt32 := Score.plainComplexity comments
  maintainability : Metrics → Float := Score.plainMaintainability
  technicalDebt : Metrics → Float := Score.technicalDebt
  outline : List Char → Outline
  /-- The issues that the given rules find in a text. -/
  check : List String → List Char → List Issue
  /-- The suggestions on a text with given metrics. -/
  advise : Metrics → List Char → List Suggestion

namespace Analyzer

/-- Whether the analyzer is meant for files with an extension. -/
def handles (a : Analyzer) (ext : String) : Bool := a.extensions.contains ext

end Analyzer

end SourceReview
