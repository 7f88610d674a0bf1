import SourceReview.Decimal.Layout

/-!
# Thresholds

A threshold is a single number, or a number for each of several grades. Thresholds are given in
layers: a metric that one layer leaves unset takes the threshold of the next.
-/

namespace SourceReview

/-- A threshold as one number or as a number for each grade. -/
inductive Threshold (β : Type) where
  | single (value : Float)
  | graded (grades : β)
  deriving Repr

/-- Numbers for the four grades of complexity. -/
structure ComplexityGrades where
  low : Float
  medium : Float
  high : Float
  critical : Float
  deriving Repr

/-- Numbers for the three grades of a percentage. -/
structure PercentGrades where
  low : Float
  medium : Float
  high : Float
  deriving Repr

/-- A threshold of complexity. -/
abbrev ComplexityThreshold := Threshold ComplexityGrades

/-- A threshold of a percentage. -/
abbrev PercentThreshold := Threshold PercentGrades

namespace ComplexityThreshold

/-- The number that a complexity has to exceed to be reported. -/
def limit : ComplexityThreshold → Float
  | .single v => v
  | .graded g => g.high

/-- The number beyond which a complexity is reported as more serious. -/
def critical? : ComplexityThreshold → Option Float
  | .single _ => none
  | .graded g => some g.critical

/-- All numbers of a threshold, from the lowest grade on. -/
def values : ComplexityThreshold → List Float
  | .single v => [v]
  | .graded g => [g.low, g.medium, g.high, g.critical]

end ComplexityThreshold

namespace PercentThreshold

/-- The number below which a percentage is reported. -/
def limit : PercentThreshold → Float
  | .single v => v
  | .graded g => g.medium

/-- The number below which a percentage is reported as more serious. -/
def floor? : PercentThreshold → Option Float
  | .single _ => none
  | .graded g => some g.low

/-- All numbers of a threshold, from the lowest grade on. -/
def values : PercentThreshold → List Float
  | .single v => [v]
  | .graded g => [g.low, g.medium, g.high]

end PercentThreshold

/-- The thresholds of one layer. -/
structure Thresholds where
  complexity : Option ComplexityThreshold := none
  maintainability : Option PercentThreshold := none
  coverage : Option PercentThreshold := none
  deriving Repr

/-- The metrics that have thresholds. -/
inductive Gauge where
  | complexity
  | maintainability
  | coverage
  deriving DecidableEq, Repr

/-- A threshold that is out of range. -/
structure ThresholdError where
  gauge : Gauge
  value : Float
  deriving Repr

/-- The text of a complaint about a threshold. -/
def ThresholdError.message (e : ThresholdError) : String :=
  let demand :=
    match e.gauge with
    | .complexity => "complexity threshold must be at least 1"
    | .maintainability => "maintainability threshold must be between 0 and 100"
    | .coverage => "coverage threshold must be between 0 and 100"
  demand ++ " (got " ++ Decimal.messageText e.value ++ ")"

/-- Whether a number may be a complexity threshold. -/
def isComplexityLimit (v : Float) : Bool := 1 ≤ v

/-- Whether a number is a percentage. -/
def isPercentage (v : Float) : Bool := 0 ≤ v && v ≤ 100

namespace Thresholds

/-- The thresholds of `top`, and those of `base` where `top` sets none. -/
def layeredOver (top base : Thresholds) : Thresholds :=
  ⟨top.complexity <|> base.complexity, top.maintainability <|> base.maintainability,
    top.coverage <|> base.coverage⟩

/-- The first number that is out of range. -/
def fault? (t : Thresholds) : Option ThresholdError :=
  let first (gauge : Gauge) (ok : Float → Bool) (values : List Float) : Option ThresholdError :=
    (values.find? (!ok ·)).map (⟨gauge, ·⟩)
  (t.complexity.bind fun c => first .complexity isComplexityLimit c.values) <|>
    (t.maintainability.bind fun m => first .maintainability isPercentage m.values) <|>
      (t.coverage.bind fun c => first .coverage isPercentage c.values)

/-- Checks that every number is in range. -/
def validate (t : Thresholds) : Except ThresholdError Unit :=
  match t.fault? with
  | some e => .error e
  | none => .ok ()

end Thresholds

end SourceReview
