import SourceReview.Finding.Issue
import SourceReview.Finding.Metrics
import SourceReview.Options.Basic
import SourceReview.Outline.Basic

/-!
# Structural rules

Three rules apply in every language, since they look at the outline and the metrics of a text
instead of its lines: functions that are too complex, classes with too many methods, and texts that
are hard to maintain.
-/

namespace SourceReview

/-- A rule about the structure of a text. -/
inductive StructuralRule where
  | highComplexity
  | largeClass
  | lowMaintainability
  deriving DecidableEq, Repr

namespace StructuralRule

/-- All structural rules. -/
def all : List StructuralRule := [.highComplexity, .largeClass, .lowMaintainability]

/-- The identifier of a structural rule. -/
def id : StructuralRule → String
  | .highComplexity => "high-complexity"
  | .largeClass => "large-class"
  | .lowMaintainability => "low-maintainability"

/-- The description of a structural rule. -/
def description : StructuralRule → String
  | .highComplexity => "Functions above the complexity threshold"
  | .largeClass => "Classes with too many methods"
  | .lowMaintainability => "Files below the maintainability threshold"

/-- The identifiers of all structural rules. -/
def ids : List String := all.map id

/-- The description of the structural rule with a given identifier. -/
def describe? (rule : String) : Option String :=
  (all.find? (·.id == rule)).map description

/-- The number of methods up to which a class is not too large. -/
def maxMethods : Nat := 10

/-- The issue that a function raises. -/
def complexityIssue? (threshold : ComplexityThreshold) (f : FunctionEntry) : Option Issue :=
  let value := f.complexity.toFloat
  if value ≤ threshold.limit then none
  else
    some
      { kind := .warning
        severity := if threshold.critical?.any (· < value) then .high else .medium
        message := s!"Function '{f.name}' has complexity {f.complexity}, exceeding threshold " ++
          Decimal.messageText threshold.limit
        line := f.line
        rule := highComplexity.id }

/-- The issue that a class raises. -/
def classIssue? (c : ClassEntry) : Option Issue :=
  if maxMethods < c.methodCount then
    some
      { kind := .warning
        severity := .medium
        message :=
          s!"Class '{c.name}' has {c.methodCount} methods, exceeding maximum of {maxMethods}"
        line := c.line
        rule := largeClass.id }
  else none

/-- The issue that the metrics of a text raise, unless it has no code. -/
def maintainabilityIssue? (threshold : PercentThreshold) (m : Metrics) : Option Issue :=
  if 0 < m.linesOfCode && m.maintainability < threshold.limit then
    some
      { kind := .info
        severity := if threshold.floor?.any (m.maintainability < ·) then .high else .medium
        message := "Maintainability index " ++ Decimal.fixedText 2 m.maintainability ++
          " is below threshold " ++ Decimal.messageText threshold.limit
        line := 1
        rule := lowMaintainability.id }
  else none

/-- The issues that a rule raises on a text with a given outline and metrics. -/
def issues (options : EffectiveOptions) (outline : Outline) (m : Metrics) :
    StructuralRule → List Issue
  | .highComplexity => outline.functions.filterMap (complexityIssue? options.complexity)
  | .largeClass => outline.classes.filterMap classIssue?
  | .lowMaintainability => (maintainabilityIssue? options.maintainability m).toList

/-- The issues that the structural rules among those asked for raise. -/
def allIssues (options : EffectiveOptions) (outline : Outline) (m : Metrics) : List Issue :=
  all.flatMap fun rule =>
    if options.isEnabled rule.id then rule.issues options outline m else []

end StructuralRule

end SourceReview
