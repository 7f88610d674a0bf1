import SourceReview.Advice.Basic
import SourceReview.Review.Analyzer
import SourceReview.Review.Structural
import SourceReview.Rules.Basic

/-!
# Languages

A language is described by data: its files, its comments, the weights of its branch points, the
rates of its maintainability, its rules and its advice. From such a description comes its analyzer.
-/

namespace SourceReview

/-- The description of a language. -/
structure Language where
  id : String
  /-- The extensions of its files, without the dot. -/
  extensions : List String
  comments : CommentStyle
  weights : List Score.Weight
  upkeep : Score.Upkeep
  thresholds : Thresholds
  outline : List Char → Outline
  rules : List Rule
  advice : List Advice
  /-- The percentage of comments below which a text should be documented. -/
  wantedComments : Float := 10
  /-- The complexity beyond which a text should be restructured. -/
  complexityLimit : UInt32 := 15

namespace Language

/-- The rules that apply if none are asked for: the structural ones and those of the language. -/
def defaultRules (l : Language) : List String := StructuralRule.ids ++ l.rules.map (·.id)

/-- The suggestions on a text with given metrics: those of the language, then those about long
functions, comments and complexity. -/
def advise (l : Language) (m : Metrics) (text : List Char) : List Suggestion :=
  let lines := listing l.comments text
  l.advice.filterMap (· lines) ++ Advice.onLongFunctions (l.outline text) ++
    (Advice.onComments l.wantedComments m).toList ++
    (Advice.onComplexity l.complexityLimit m).toList

/-- The analyzer of a language. -/
def analyzer (l : Language) : Analyzer where
  id := l.id
  extensions := l.extensions
  comments := l.comments
  defaultRules := l.defaultRules
  describe := Rule.describe? l.rules
  thresholds := l.thresholds
  complexity := Score.complexity l.comments l.weights
  maintainability := l.upkeep.maintainability
  outline := l.outline
  check ids text := Rule.checkAll l.rules ids (listing l.comments text)
  advise := l.advise

end Language

end SourceReview
