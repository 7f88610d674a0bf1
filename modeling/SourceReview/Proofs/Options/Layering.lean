import SourceReview.Proofs.Distinct
import SourceReview.Proofs.FloatOrder
import SourceReview.Proofs.Options.Resolve

/-!
# Layers of options

The options of a run come from four layers: the caller, the engine, the language, and the base. For
each field the first layer counts that sets it, and thresholds are separate fields for each metric.
`EffectiveOptions.ofLayers` says this directly, without laying one layer over another.

The main statement is `EffectiveOptions.resolve_layers`. Options are checked twice on the way, first
those of the caller over those of the engine and then all of them over the language. What the two
checks find is what is out of range in the end, so that a threshold that an earlier layer hides is
never complained about.
-/

namespace SourceReview

/-! ### Laying options over each other -/

theorem Thresholds.layeredOver_assoc (top middle bottom : Thresholds) :
    (top.layeredOver middle).layeredOver bottom = top.layeredOver (middle.layeredOver bottom) := by
  unfold layeredOver
  simp only [Option.orElse_eq_orElse, Option.orElse_eq_or, Option.or_assoc]

namespace Options

theorem layeredOver_assoc (top middle bottom : Options) :
    (top.layeredOver middle).layeredOver bottom = top.layeredOver (middle.layeredOver bottom) := by
  unfold layeredOver
  simp only [Option.orElse_eq_orElse, Option.orElse_eq_or, Option.or_assoc]
  cases top.thresholds <;> cases middle.thresholds <;> cases bottom.thresholds <;>
    simp only [Thresholds.layeredOver_assoc]

theorem layeredOver_empty (o : Options) : o.layeredOver {} = o := by
  obtain ⟨rules, thresholds, suggestions, dependencies⟩ := o
  unfold layeredOver
  cases thresholds <;> simp

theorem empty_layeredOver (o : Options) : ({} : Options).layeredOver o = o := rfl

/-- The threshold of one metric, if it is laid over the one below it as a field of its own. -/
theorem threshold_layeredOver {α : Type} {metric : Thresholds → Option α}
    (hmetric : ∀ t b : Thresholds, metric (t.layeredOver b) = (metric t <|> metric b))
    (top base : Options) :
    (top.layeredOver base).thresholds.bind metric
      = (top.thresholds.bind metric <|> base.thresholds.bind metric) := by
  unfold layeredOver
  cases top.thresholds with
  | none => simp
  | some t =>
    cases base.thresholds with
    | none => simp
    | some b => simp only [Option.bind_some, hmetric]

end Options

/-! ### The first layer that sets a field -/

/-- The value of the first layer that sets one, or else the base. -/
def firstSet {α : Type} (layers : List (Option α)) (base : α) : α := (layers.findSome? id).getD base

theorem firstSet_pair {α : Type} (first second : Option α) (base : α) :
    firstSet [first, second] base = (first <|> second).getD base := by
  cases first <;> cases second <;> rfl

theorem firstSet_triple {α : Type} (first second third : Option α) (base : α) :
    firstSet [first, second, third] base = ((first <|> second) <|> third).getD base := by
  cases first <;> cases second <;> cases third <;> rfl

namespace EffectiveOptions

/-- The options of a run, each from the first layer that sets it. Of repeated rules the first is
kept. -/
def ofLayers (caller engine : Options) (rules : List String) (defaults : Thresholds) :
    EffectiveOptions where
  rules := (firstSet [caller.rules, engine.rules] rules).eraseDups
  complexity :=
    firstSet [caller.thresholds.bind (·.complexity), engine.thresholds.bind (·.complexity),
      defaults.complexity] baseComplexity
  maintainability :=
    firstSet [caller.thresholds.bind (·.maintainability),
      engine.thresholds.bind (·.maintainability), defaults.maintainability] baseMaintainability
  coverage :=
    firstSet [caller.thresholds.bind (·.coverage), engine.thresholds.bind (·.coverage),
      defaults.coverage] baseCoverage
  includeSuggestions := firstSet [caller.includeSuggestions, engine.includeSuggestions] true
  skipDependencies := firstSet [caller.skipDependencies, engine.skipDependencies] false

/-- Laying the layers over each other gives every field to the first layer that sets it. -/
theorem effective_layeredOver (caller engine : Options) (rules : List String)
    (defaults : Thresholds) :
    effective (caller.layeredOver engine) rules defaults
      = ofLayers caller engine rules defaults := by
  unfold effective ofThresholds ofLayers
  rw [Options.complexity_thresholdsOver, Options.maintainability_thresholdsOver,
    Options.coverage_thresholdsOver]
  rw [Options.threshold_layeredOver fun _ _ => rfl, Options.threshold_layeredOver fun _ _ => rfl,
    Options.threshold_layeredOver fun _ _ => rfl]
  simp only [firstSet_pair, firstSet_triple]
  rfl

/-- Thresholds in range are numbers. -/
theorem InRange.isNaN_eq_false {o : EffectiveOptions} (h : o.InRange) {v : Float}
    (hv : v ∈ o.complexity.values ++ o.maintainability.values ++ o.coverage.values) :
    v.isNaN = false := by
  rcases List.mem_append.1 hv with hv | hcoverage
  · rcases List.mem_append.1 hv with hcomplexity | hmaintainability
    · exact (FloatOrder.isNaN_eq_false_of_le (h.complexity v hcomplexity)).2
    · exact (FloatOrder.isNaN_eq_false_of_le (h.maintainability v hmaintainability).1).2
  · exact (FloatOrder.isNaN_eq_false_of_le (h.coverage v hcoverage).1).2

/-- **How layers of options are resolved.** For all options of the caller and of the engine and all
defaults of a language:

* they are resolved if and only if the thresholds are in range that come from the first layer that
  sets them, whatever the layers below have there, and what comes of them are the values of these
  first layers;
* what is not a number is out of range;
* the rules are those of the first layer that sets any, in the order of their first occurrences;
* laying options over each other is associative, and options without any value are neutral. -/
theorem resolve_layers (caller engine : Options) (rules : List String) (defaults : Thresholds) :
    let layered := ofLayers caller engine rules defaults
    let requested := firstSet [caller.rules, engine.rules] rules
    (∀ resolved, resolve (caller.layeredOver engine) rules defaults = .ok resolved ↔
      layered.InRange ∧ resolved = layered) ∧
    (layered.InRange → ∀ v ∈ layered.complexity.values ++ layered.maintainability.values
      ++ layered.coverage.values, v.isNaN = false) ∧
    ((∀ rule, rule ∈ layered.rules ↔ rule ∈ requested) ∧
      layered.rules.Pairwise fun a b => requested.idxOf a < requested.idxOf b) ∧
    (∀ base : Options, (caller.layeredOver engine).layeredOver base
      = caller.layeredOver (engine.layeredOver base)) ∧
    caller.layeredOver {} = caller ∧ ({} : Options).layeredOver caller = caller := by
  intro layered requested
  refine ⟨?_, fun h v => h.isNaN_eq_false, ⟨fun rule => List.mem_eraseDups,
    pairwise_idxOf_eraseDups requested⟩, caller.layeredOver_assoc engine, caller.layeredOver_empty,
    caller.empty_layeredOver⟩
  intro resolved
  rw [resolve_eq_ok_iff_inRange, effective_layeredOver]

/-- A threshold of the engine that is out of range does not matter if the caller sets one. -/
example : (resolve (Options.layeredOver { thresholds := some { coverage := some (.single 80) } }
    { thresholds := some { coverage := some (.single (0 / 0)) } }) [] {}).isOk = true := by
  decide

end EffectiveOptions

end SourceReview
