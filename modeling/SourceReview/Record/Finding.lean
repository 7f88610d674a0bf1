import SourceReview.Finding.Issue
import SourceReview.Finding.Metrics
import SourceReview.Finding.Suggestion
import SourceReview.Record.Readable

/-!
# Issues, suggestions and metrics as records
-/

namespace SourceReview

variable {ν : Type} [Readable ν]

namespace Fix

/-- Reads a proposed correction. -/
def read (v : ν) : Option Fix := do
  let fields ← Record.fields? ["description", "replacement"] v
  return {
    description := ← Record.required fields "description" asText?
    replacement := ← Record.required fields "replacement" asText? }

/-- A proposed correction as a JSON value. -/
def toJson (f : Fix) : Json :=
  .obj [("description", .str f.description), ("replacement", .str f.replacement)]

end Fix

namespace Issue

/-- Reads an issue. -/
def read (v : ν) : Option Issue := do
  let fields ←
    Record.fields? ["type", "severity", "message", "line", "column", "rule", "fix"] v
  return {
    kind := ← Record.required fields "type" (Record.choice IssueKind.all IssueKind.name)
    severity := ← Record.required fields "severity" (Record.choice Severity.all Severity.name)
    message := ← Record.required fields "message" asText?
    line := ← Record.required fields "line" Record.count
    column := ← Record.optionalField fields "column" Record.count
    rule := ← Record.required fields "rule" asText?
    fix := ← Record.optionalField fields "fix" Fix.read }

/-- An issue as a JSON value. -/
def toJson (i : Issue) : Json :=
  .obj
    ([("type", .str i.kind.name), ("severity", .str i.severity.name), ("message", .str i.message),
        ("line", .ofNat i.line)] ++
      Json.optional "column" (i.column.map .ofNat) ++ [("rule", .str i.rule)] ++
      Json.optional "fix" (i.fix.map (·.toJson)))

end Issue

namespace Impact

/-- Reads an estimated effect. -/
def read (v : ν) : Option Impact := do
  let fields ←
    Record.fields?
      ["complexityReduction", "maintainabilityImprovement", "performanceImprovement"] v
  return {
    complexityReduction := ← Record.optionalField fields "complexityReduction" asFloat?
    maintainabilityImprovement := ←
      Record.optionalField fields "maintainabilityImprovement" asFloat?
    performanceImprovement := ← Record.optionalField fields "performanceImprovement" asText? }

/-- An estimated effect as a JSON value. -/
def toJson (i : Impact) : Json :=
  .obj
    (Json.optional "complexityReduction" (i.complexityReduction.map .ofFloat) ++
      Json.optional "maintainabilityImprovement" (i.maintainabilityImprovement.map .ofFloat) ++
      Json.optional "performanceImprovement" (i.performanceImprovement.map .str))

end Impact

namespace Suggestion

/-- Reads a suggestion. -/
def read (v : ν) : Option Suggestion := do
  let fields ← Record.fields? ["type", "priority", "description", "line", "estimatedImpact"] v
  return {
    kind := ← Record.required fields "type" (Record.choice SuggestionKind.all SuggestionKind.name)
    priority := ← Record.required fields "priority" (Record.choice Priority.all Priority.name)
    description := ← Record.required fields "description" asText?
    line := ← Record.required fields "line" Record.count
    impact := ← Record.required fields "estimatedImpact" Impact.read }

/-- A suggestion as a JSON value. -/
def toJson (s : Suggestion) : Json :=
  .obj [("type", .str s.kind.name), ("priority", .str s.priority.name),
    ("description", .str s.description), ("line", .ofNat s.line),
    ("estimatedImpact", s.impact.toJson)]

end Suggestion

namespace Metrics

/-- Reads the figures of a text. -/
def read (v : ν) : Option Metrics := do
  let fields ←
    Record.fields? ["complexity", "maintainability", "linesOfCode", "commentLines",
      "commentPercentage", "functionCount", "averageFunctionLength", "dependencies",
      "technicalDebt"] v
  return {
    complexity := ← Record.required fields "complexity" Record.word
    maintainability := ← Record.required fields "maintainability" asFloat?
    linesOfCode := ← Record.required fields "linesOfCode" Record.count
    commentLines := ← Record.required fields "commentLines" Record.count
    commentPercentage := ← Record.required fields "commentPercentage" asFloat?
    functionCount := ← Record.required fields "functionCount" Record.count
    meanFunctionLength := ← Record.required fields "averageFunctionLength" asFloat?
    dependencies := ← Record.required fields "dependencies" Record.texts
    technicalDebt := ← Record.required fields "technicalDebt" asFloat? }

/-- The figures of a text as a JSON value. -/
def toJson (m : Metrics) : Json :=
  .obj [("complexity", .ofNat m.complexity.toNat), ("maintainability", .ofFloat m.maintainability),
    ("linesOfCode", .ofNat m.linesOfCode), ("commentLines", .ofNat m.commentLines),
    ("commentPercentage", .ofFloat m.commentPercentage), ("functionCount", .ofNat m.functionCount),
    ("averageFunctionLength", .ofFloat m.meanFunctionLength),
    ("dependencies", .ofTexts m.dependencies), ("technicalDebt", .ofFloat m.technicalDebt)]

end Metrics

end SourceReview
