import SourceReview.Review.Error
import SourceReview.Review.Measure
import SourceReview.Review.Structural

/-!
# Reviews

A review of a source text collects its metrics, the issues that the rules find and the suggestions
of the language. Options are checked before anything else is done.
-/

namespace SourceReview

/-- An analyzer together with the defaults that its language is registered with. -/
structure Binding where
  name : String
  analyzer : Analyzer
  defaultRules : List String
  defaultThresholds : Thresholds

/-- An analyzer with its own defaults. -/
def Binding.ofAnalyzer (a : Analyzer) : Binding := ⟨a.id, a, a.defaultRules, a.thresholds⟩

/-- A binding as a text for diagnostics. -/
def Binding.text (b : Binding) : String :=
  "LanguageBinding \x7b name: " ++ Text.quoted b.name ++ ", analyzer: " ++
    Text.quoted b.analyzer.id ++ ", default_rules: " ++ Text.quotedList b.defaultRules ++ " \x7d"

/-- The review of one source text. -/
structure Review where
  filePath : String
  language : String
  issues : List Issue
  metrics : Metrics
  suggestions : List Suggestion
  deriving Repr

/-- Whether an issue comes before another or beside it: by line, and in a line by rule. -/
def Issue.notAfter (a b : Issue) : Bool :=
  a.line < b.line || (a.line == b.line && !decide (b.rule < a.rule))

namespace Review

/-- The greatest severity among the issues. -/
def maxSeverity? (r : Review) : Option Severity :=
  Severity.all.reverse.find? fun s => r.issues.any (·.severity == s)

/-- The number of issues of a kind. -/
def countOfKind (r : Review) (kind : IssueKind) : Nat := r.issues.countP (·.kind == kind)

/-- The issues of a rule. -/
def issuesOfRule (r : Review) (rule : String) : List Issue := r.issues.filter (·.rule == rule)

/-- Whether an issue is to be reported: its rule has been asked for, and a function is too complex
only if the whole text is. -/
def isReported (options : EffectiveOptions) (m : Metrics) (issue : Issue) : Bool :=
  options.isEnabled issue.rule &&
    (issue.rule != StructuralRule.highComplexity.id ||
      options.complexity.limit < m.complexity.toFloat)

/-- The review of a text with options that are laid over all defaults. -/
def ofResolved (b : Binding) (path : String) (options : EffectiveOptions) (text : List Char) :
    Review :=
  let outline := b.analyzer.outline text
  let metrics := b.analyzer.metrics outline options.skipDependencies text
  let found :=
    StructuralRule.allIssues options outline metrics ++ b.analyzer.check options.rules text
  { filePath := path
    language := b.name
    issues := (found.filter (isReported options metrics)).mergeSort Issue.notAfter
    metrics := metrics
    suggestions :=
      if options.includeSuggestions then
        (b.analyzer.advise metrics text).mergeSort fun a b => a.line ≤ b.line
      else [] }

/-- The review of a text. `path` only labels the result. -/
def ofText (b : Binding) (path : String) (options : Options) (text : String) :
    Except ReviewError Review :=
  match EffectiveOptions.resolve options b.defaultRules b.defaultThresholds with
  | .ok resolved => .ok (ofResolved b path resolved text.toList)
  | .error fault => .error (.invalidThreshold fault)

end Review

end SourceReview
