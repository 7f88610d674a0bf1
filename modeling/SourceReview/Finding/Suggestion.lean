/-!
# Suggestions

A suggestion proposes a refactoring, with an estimate of what it would bring.
-/

namespace SourceReview

/-- What a suggestion proposes to do. -/
inductive SuggestionKind where
  | extract
  | inline
  | rename
  | restructure
  | optimize
  | modernize
  | document
  deriving DecidableEq, Repr

namespace SuggestionKind

/-- The name of a kind of suggestion. -/
def name : SuggestionKind → String
  | .extract => "extract"
  | .inline => "inline"
  | .rename => "rename"
  | .restructure => "restructure"
  | .optimize => "optimize"
  | .modernize => "modernize"
  | .document => "document"

/-- All kinds of suggestions. -/
def all : List SuggestionKind :=
  [.extract, .inline, .rename, .restructure, .optimize, .modernize, .document]

end SuggestionKind

/-- How urgent a suggestion is. -/
inductive Priority where
  | low
  | medium
  | high
  deriving DecidableEq, Repr

namespace Priority

/-- The name of a priority. -/
def name : Priority → String
  | .low => "low"
  | .medium => "medium"
  | .high => "high"

/-- All priorities. -/
def all : List Priority := [.low, .medium, .high]

end Priority

/-- The estimated effect of a suggestion, good for ranking suggestions and for nothing else. -/
structure Impact where
  complexityReduction : Option Float := none
  maintainabilityImprovement : Option Float := none
  performanceImprovement : Option String := none
  deriving Repr

/-- A proposed refactoring. -/
structure Suggestion where
  kind : SuggestionKind
  priority : Priority
  description : String
  line : Nat
  impact : Impact
  deriving Repr

end SourceReview
