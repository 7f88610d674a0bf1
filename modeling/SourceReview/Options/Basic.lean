import SourceReview.Options.Threshold

/-!
# Options

The options of an analysis come in layers: those of the caller lie over those of the engine, which
lie over the defaults of the language. Every field may be left unset.
-/

namespace SourceReview

/-- The options of one layer. -/
structure Options where
  /-- The rules to apply, in place of those of the layer below. -/
  rules : Option (List String) := none
  thresholds : Option Thresholds := none
  includeSuggestions : Option Bool := none
  skipDependencies : Option Bool := none
  deriving Repr

namespace Options

/-- Whether suggestions are wanted, as they are unless declined. -/
def wantsSuggestions (o : Options) : Bool := o.includeSuggestions.getD true

/-- Whether dependencies are left out, as they are only on demand. -/
def dropsDependencies (o : Options) : Bool := o.skipDependencies.getD false

/-- The options of `top`, and those of `base` where `top` sets none; thresholds are laid over each
other metric by metric. -/
def layeredOver (top base : Options) : Options where
  rules := top.rules <|> base.rules
  thresholds :=
    match top.thresholds, base.thresholds with
    | some t, some b => some (t.layeredOver b)
    | some t, none => some t
    | none, b => b
  includeSuggestions := top.includeSuggestions <|> base.includeSuggestions
  skipDependencies := top.skipDependencies <|> base.skipDependencies

/-- Checks the thresholds of this layer. -/
def validate (o : Options) : Except ThresholdError Unit :=
  match o.thresholds with
  | some t => t.validate
  | none => .ok ()

end Options

/-- The options of one run, with every layer applied. -/
structure EffectiveOptions where
  rules : List String
  complexity : ComplexityThreshold
  maintainability : PercentThreshold
  coverage : PercentThreshold
  includeSuggestions : Bool
  skipDependencies : Bool
  deriving Repr

namespace EffectiveOptions

/-- The complexity threshold if no layer sets one. -/
def baseComplexity : ComplexityThreshold := .single 10

/-- The maintainability threshold if no layer sets one. -/
def baseMaintainability : PercentThreshold := .single 40

/-- The coverage threshold if no layer sets one. -/
def baseCoverage : PercentThreshold := .single 80

/-- Lays `options` over the defaults of a language. Rules replace the default rules as a whole, and
repeated rules count once. Fails if a threshold is out of range. -/
def resolve (options : Options) (defaultRules : List String) (defaults : Thresholds) :
    Except ThresholdError EffectiveOptions := do
  options.validate
  let thresholds :=
    match options.thresholds with
    | some t => t.layeredOver defaults
    | none => defaults
  thresholds.validate
  return {
    rules := (options.rules.getD defaultRules).eraseDups
    complexity := thresholds.complexity.getD baseComplexity
    maintainability := thresholds.maintainability.getD baseMaintainability
    coverage := thresholds.coverage.getD baseCoverage
    includeSuggestions := options.wantsSuggestions
    skipDependencies := options.dropsDependencies }

/-- Whether a rule is to be applied. -/
def isEnabled (r : EffectiveOptions) (rule : String) : Bool := r.rules.contains rule

end EffectiveOptions

end SourceReview
