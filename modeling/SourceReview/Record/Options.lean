import SourceReview.Options.Basic
import SourceReview.Record.Readable

/-!
# Options as records
-/

namespace SourceReview

variable {ν : Type} [Readable ν]

namespace Threshold

/-- Reads a threshold, which is a number or a record of grades. -/
def read (grades : ν → Option β) (v : ν) : Option (Threshold β) :=
  match asFloat? v with
  | some x => some (.single x)
  | none => (grades v).map .graded

/-- A threshold as a JSON value. -/
def toJson (grades : β → Json) : Threshold β → Json
  | .single x => .ofFloat x
  | .graded g => grades g

end Threshold

namespace ComplexityGrades

/-- Reads the grades of complexity. -/
def read (v : ν) : Option ComplexityGrades := do
  let fields ← Record.fields? ["low", "medium", "high", "critical"] v
  return {
    low := ← Record.required fields "low" asFloat?
    medium := ← Record.required fields "medium" asFloat?
    high := ← Record.required fields "high" asFloat?
    critical := ← Record.required fields "critical" asFloat? }

/-- The grades of complexity as a JSON value. -/
def toJson (g : ComplexityGrades) : Json :=
  .obj [("low", .ofFloat g.low), ("medium", .ofFloat g.medium), ("high", .ofFloat g.high),
    ("critical", .ofFloat g.critical)]

end ComplexityGrades

namespace PercentGrades

/-- Reads the grades of a percentage. -/
def read (v : ν) : Option PercentGrades := do
  let fields ← Record.fields? ["low", "medium", "high"] v
  return {
    low := ← Record.required fields "low" asFloat?
    medium := ← Record.required fields "medium" asFloat?
    high := ← Record.required fields "high" asFloat? }

/-- The grades of a percentage as a JSON value. -/
def toJson (g : PercentGrades) : Json :=
  .obj [("low", .ofFloat g.low), ("medium", .ofFloat g.medium), ("high", .ofFloat g.high)]

end PercentGrades

namespace Thresholds

/-- Reads the thresholds of a layer. -/
def read (v : ν) : Option Thresholds := do
  let fields ← Record.fields? ["complexity", "maintainability", "coverage"] v
  return {
    complexity := ←
      Record.optionalField fields "complexity" (Threshold.read ComplexityGrades.read)
    maintainability := ←
      Record.optionalField fields "maintainability" (Threshold.read PercentGrades.read)
    coverage := ← Record.optionalField fields "coverage" (Threshold.read PercentGrades.read) }

/-- The thresholds of a layer as a JSON value, without those that are not set. -/
def toJson (t : Thresholds) : Json :=
  .obj
    (Json.optional "complexity" (t.complexity.map (Threshold.toJson ComplexityGrades.toJson)) ++
      Json.optional "maintainability"
        (t.maintainability.map (Threshold.toJson PercentGrades.toJson)) ++
      Json.optional "coverage" (t.coverage.map (Threshold.toJson PercentGrades.toJson)))

end Thresholds

namespace Options

/-- Reads the options of a layer. -/
def read (v : ν) : Option Options := do
  let fields ← Record.fields? ["rules", "thresholds", "includeSuggestions", "skipDependencies"] v
  return {
    rules := ← Record.optionalField fields "rules" Record.texts
    thresholds := ← Record.optionalField fields "thresholds" Thresholds.read
    includeSuggestions := ← Record.optionalField fields "includeSuggestions" asFlag?
    skipDependencies := ← Record.optionalField fields "skipDependencies" asFlag? }

/-- The options of a layer as a JSON value, without those that are not set. -/
def toJson (o : Options) : Json :=
  .obj
    (Json.optional "rules" (o.rules.map .ofTexts) ++
      Json.optional "thresholds" (o.thresholds.map (·.toJson)) ++
      Json.optional "includeSuggestions" (o.includeSuggestions.map .bool) ++
      Json.optional "skipDependencies" (o.skipDependencies.map .bool))

end Options

end SourceReview
