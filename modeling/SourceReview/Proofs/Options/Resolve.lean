import SourceReview.Options.Basic

/-!
# Valid options

Options are resolved if and only if their own thresholds are in range, and those that they leave
after the defaults are laid under them (`EffectiveOptions.resolve_eq_ok_iff`). Nothing else can make
them fail, in particular not the rules (`EffectiveOptions.resolve_rules`). What options set
themselves counts in the end, so only the thresholds that are effective have to be in range
(`EffectiveOptions.resolve_eq_ok_iff_inRange`).
-/

namespace SourceReview

theorem ComplexityThreshold.limit_mem_values (c : ComplexityThreshold) :
    ComplexityThreshold.limit c ∈ ComplexityThreshold.values c := by
  cases c <;> simp [ComplexityThreshold.limit, ComplexityThreshold.values]

theorem Thresholds.validate_eq_ok_iff_fault? (t : Thresholds) :
    t.validate = .ok () ↔ t.fault? = none := by
  unfold validate
  cases t.fault? <;> simp

/-- Thresholds pass the check if and only if all their numbers are in range. -/
theorem Thresholds.validate_eq_ok_iff (t : Thresholds) :
    t.validate = .ok () ↔
      (∀ c ∈ t.complexity, ∀ v ∈ ComplexityThreshold.values c, isComplexityLimit v = true) ∧
      (∀ m ∈ t.maintainability, ∀ v ∈ PercentThreshold.values m, isPercentage v = true) ∧
      ∀ c ∈ t.coverage, ∀ v ∈ PercentThreshold.values c, isPercentage v = true := by
  rw [validate_eq_ok_iff_fault?]
  unfold fault?
  simp [Option.or_eq_none_iff]

/-- The thresholds that options give together with the defaults under them. -/
def Options.thresholdsOver (options : Options) (defaults : Thresholds) : Thresholds :=
  match options.thresholds with
  | some t => t.layeredOver defaults
  | none => defaults

namespace Options

theorem complexity_thresholdsOver (options : Options) (defaults : Thresholds) :
    (options.thresholdsOver defaults).complexity
      = (options.thresholds.bind (·.complexity) <|> defaults.complexity) := by
  unfold thresholdsOver
  cases options.thresholds <;> rfl

theorem maintainability_thresholdsOver (options : Options) (defaults : Thresholds) :
    (options.thresholdsOver defaults).maintainability
      = (options.thresholds.bind (·.maintainability) <|> defaults.maintainability) := by
  unfold thresholdsOver
  cases options.thresholds <;> rfl

theorem coverage_thresholdsOver (options : Options) (defaults : Thresholds) :
    (options.thresholdsOver defaults).coverage
      = (options.thresholds.bind (·.coverage) <|> defaults.coverage) := by
  unfold thresholdsOver
  cases options.thresholds <;> rfl

end Options

namespace EffectiveOptions

/-- The options of a run with given thresholds. -/
def ofThresholds (options : Options) (defaultRules : List String) (thresholds : Thresholds) :
    EffectiveOptions where
  rules := (options.rules.getD defaultRules).eraseDups
  complexity := thresholds.complexity.getD baseComplexity
  maintainability := thresholds.maintainability.getD baseMaintainability
  coverage := thresholds.coverage.getD baseCoverage
  includeSuggestions := options.wantsSuggestions
  skipDependencies := options.dropsDependencies

theorem resolve_eq (options : Options) (defaultRules : List String) (defaults : Thresholds) :
    resolve options defaultRules defaults =
      (do
        options.validate
        (options.thresholdsOver defaults).validate
        return ofThresholds options defaultRules (options.thresholdsOver defaults)) := rfl

/-- When options are valid, and what comes of them. -/
theorem resolve_eq_ok_iff {options : Options} {defaultRules : List String} {defaults : Thresholds}
    {resolved : EffectiveOptions} :
    resolve options defaultRules defaults = .ok resolved ↔
      options.validate = .ok () ∧ (options.thresholdsOver defaults).validate = .ok () ∧
        resolved = ofThresholds options defaultRules (options.thresholdsOver defaults) := by
  rw [resolve_eq]
  cases options.validate with
  | error e => simp [bind, Except.bind]
  | ok u =>
    cases (options.thresholdsOver defaults).validate with
    | error e => simp [bind, Except.bind]
    | ok u => simp [bind, Except.bind, pure, Except.pure, eq_comm]

/-! ### Thresholds in range -/

/-- The options of a run, whether they are valid or not. -/
def effective (options : Options) (defaultRules : List String) (defaults : Thresholds) :
    EffectiveOptions :=
  ofThresholds options defaultRules (options.thresholdsOver defaults)

/-- Every number of every threshold is in range. -/
structure InRange (o : EffectiveOptions) : Prop where
  complexity : ∀ v ∈ o.complexity.values, 1 ≤ v
  maintainability : ∀ v ∈ o.maintainability.values, 0 ≤ v ∧ v ≤ 100
  coverage : ∀ v ∈ o.coverage.values, 0 ≤ v ∧ v ≤ 100

theorem isPercentage_iff (v : Float) : isPercentage v = true ↔ 0 ≤ v ∧ v ≤ 100 := by
  unfold isPercentage
  rw [Bool.and_eq_true, decide_eq_true_iff, decide_eq_true_iff]

/-- A property of the base holds of what a layer sets if and only if it holds of what is set at the
end. -/
theorem forall_mem_iff_getD {α : Type} {P : α → Prop} {base : α} (hbase : P base) (set : Option α) :
    (∀ a ∈ set, P a) ↔ P (set.getD base) := by
  cases set with
  | none => simp [hbase]
  | some a => simp

/-- The base thresholds are in range, so the thresholds over them decide. -/
theorem inRange_ofThresholds_iff (options : Options) (defaultRules : List String) (t : Thresholds) :
    (ofThresholds options defaultRules t).InRange ↔ t.validate = .ok () := by
  have hcomplexity : ∀ v ∈ ComplexityThreshold.values baseComplexity,
      isComplexityLimit v = true := by
    decide
  have hmaintainability : ∀ v ∈ PercentThreshold.values baseMaintainability,
      isPercentage v = true := by
    decide
  have hcoverage : ∀ v ∈ PercentThreshold.values baseCoverage, isPercentage v = true := by decide
  rw [Thresholds.validate_eq_ok_iff, forall_mem_iff_getD hcomplexity,
    forall_mem_iff_getD hmaintainability, forall_mem_iff_getD hcoverage]
  simp only [isPercentage_iff, isComplexityLimit, decide_eq_true_iff]
  exact ⟨fun h => ⟨h.complexity, h.maintainability, h.coverage⟩, fun h => ⟨h.1, h.2.1, h.2.2⟩⟩

/-- What a layer sets is effective, so it is checked again with what it lies over. -/
theorem validate_of_thresholdsOver {options : Options} {defaults : Thresholds}
    (h : (options.thresholdsOver defaults).validate = .ok ()) : options.validate = .ok () := by
  unfold Options.validate
  cases ht : options.thresholds with
  | none => rfl
  | some t =>
    rw [Thresholds.validate_eq_ok_iff, Options.complexity_thresholdsOver,
      Options.maintainability_thresholdsOver, Options.coverage_thresholdsOver, ht] at h
    obtain ⟨hcomplexity, hmaintainability, hcoverage⟩ := h
    refine (Thresholds.validate_eq_ok_iff t).2 ⟨?_, ?_, ?_⟩
    · intro c hc
      exact hcomplexity c (by simp [Option.mem_def.1 hc])
    · intro m hm
      exact hmaintainability m (by simp [Option.mem_def.1 hm])
    · intro c hc
      exact hcoverage c (by simp [Option.mem_def.1 hc])

/-- Options are valid if and only if all thresholds are in range that count in the end. -/
theorem resolve_eq_ok_iff_inRange {options : Options} {defaultRules : List String}
    {defaults : Thresholds} {resolved : EffectiveOptions} :
    resolve options defaultRules defaults = .ok resolved ↔
      (effective options defaultRules defaults).InRange ∧
        resolved = effective options defaultRules defaults := by
  rw [resolve_eq_ok_iff, effective, inRange_ofThresholds_iff]
  constructor
  · rintro ⟨-, hvalid, rfl⟩
    exact ⟨hvalid, rfl⟩
  · rintro ⟨hvalid, rfl⟩
    exact ⟨validate_of_thresholdsOver hvalid, hvalid, rfl⟩

/-! ### Parts of valid options -/

/-- Options stay valid if they ask for other rules. -/
theorem resolve_rules {options : Options} {defaultRules : List String} {defaults : Thresholds}
    {resolved : EffectiveOptions} (h : resolve options defaultRules defaults = .ok resolved)
    (rules : List String) :
    resolve { options with rules := some rules } defaultRules defaults
      = .ok { resolved with rules := rules.eraseDups } := by
  obtain ⟨hoptions, hthresholds, rfl⟩ := resolve_eq_ok_iff.1 h
  exact resolve_eq_ok_iff.2 ⟨hoptions, hthresholds, rfl⟩

/-- Options stay valid if dependencies are left out, or not. -/
theorem resolve_skipDependencies {options : Options} {defaultRules : List String}
    {defaults : Thresholds} {resolved : EffectiveOptions}
    (h : resolve options defaultRules defaults = .ok resolved) (skip : Bool) :
    resolve { options with skipDependencies := some skip } defaultRules defaults
      = .ok { resolved with skipDependencies := skip } := by
  obtain ⟨hoptions, hthresholds, rfl⟩ := resolve_eq_ok_iff.1 h
  exact resolve_eq_ok_iff.2 ⟨hoptions, hthresholds, rfl⟩

/-- The limit of complexity in valid options is at least one. -/
theorem isComplexityLimit_limit {options : Options} {defaultRules : List String}
    {defaults : Thresholds} {resolved : EffectiveOptions}
    (h : resolve options defaultRules defaults = .ok resolved) :
    isComplexityLimit (ComplexityThreshold.limit resolved.complexity) = true := by
  obtain ⟨-, hvalid, rfl⟩ := resolve_eq_ok_iff.1 h
  show isComplexityLimit (ComplexityThreshold.limit
    ((options.thresholdsOver defaults).complexity.getD baseComplexity)) = true
  cases hc : (options.thresholdsOver defaults).complexity with
  | none => decide
  | some c =>
    have hvalues := ((Thresholds.validate_eq_ok_iff _).1 hvalid).1 c hc
    exact hvalues _ (ComplexityThreshold.limit_mem_values c)

end EffectiveOptions

end SourceReview
