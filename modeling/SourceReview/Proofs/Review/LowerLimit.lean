import Mathlib.Data.List.Basic
import Mathlib.Data.List.Flatten
import SourceReview.Proofs.FloatOrder
import SourceReview.Proofs.Review.RuleSelection

/-!
# Lower limits of complexity

A lower limit of complexity gives more issues, and takes none away (`issues_under_lower_limit`).
The limit decides twice: which functions raise an issue, and whether issues about complexity are
reported for the text at all. Both ask whether an integer exceeds the limit, once as `¬ n ≤ limit`
and once as `limit < n`, which is the same for a limit in range (`not_toFloat_le_iff`). So
everything that is reported under the higher limit is reported under the lower one as well, in the
same order.

The words of an issue name the limit, so the issues are compared without them.
-/

namespace SourceReview

/-! ### Stricter options -/

/-- The options differ in their complexity thresholds at most. -/
structure Options.AgreeBesideComplexity (o p : Options) : Prop where
  rules : o.rules = p.rules
  maintainability : o.thresholds.bind (·.maintainability) = p.thresholds.bind (·.maintainability)
  coverage : o.thresholds.bind (·.coverage) = p.thresholds.bind (·.coverage)
  includeSuggestions : o.includeSuggestions = p.includeSuggestions
  skipDependencies : o.skipDependencies = p.skipDependencies

/-- `strict` is `loose` with another complexity threshold, which everything exceeds that exceeds the
one of `loose`. -/
structure EffectiveOptions.StricterThan (strict loose : EffectiveOptions) : Prop where
  loose_eq : loose = { strict with complexity := loose.complexity }
  strict_inRange : isComplexityLimit strict.complexity.limit = true
  loose_inRange : isComplexityLimit loose.complexity.limit = true
  limit_lt : ∀ n : UInt32,
    loose.complexity.limit < n.toFloat → strict.complexity.limit < n.toFloat
  critical_eq : strict.complexity.critical? = loose.complexity.critical?

namespace EffectiveOptions

theorem StricterThan.rules_eq {strict loose : EffectiveOptions} (h : strict.StricterThan loose) :
    loose.rules = strict.rules := by
  rw [h.loose_eq]

theorem StricterThan.skipDependencies_eq {strict loose : EffectiveOptions}
    (h : strict.StricterThan loose) : loose.skipDependencies = strict.skipDependencies := by
  rw [h.loose_eq]

/-- Valid options that agree beside complexity give options that do. -/
theorem eq_of_agreeBesideComplexity {o p : Options}
    (h : o.AgreeBesideComplexity p) {defaultRules : List String} {defaults : Thresholds}
    {first second : EffectiveOptions} (hfirst : resolve o defaultRules defaults = .ok first)
    (hsecond : resolve p defaultRules defaults = .ok second) :
    second = { first with complexity := second.complexity } := by
  obtain ⟨-, -, rfl⟩ := resolve_eq_ok_iff.1 hfirst
  obtain ⟨-, -, rfl⟩ := resolve_eq_ok_iff.1 hsecond
  simp only [ofThresholds, Options.wantsSuggestions, Options.dropsDependencies,
    Options.maintainability_thresholdsOver, Options.coverage_thresholdsOver, h.rules,
    h.maintainability, h.coverage, h.includeSuggestions, h.skipDependencies]

end EffectiveOptions

/-- An integer is not within a limit if and only if it exceeds it. -/
theorem not_toFloat_le_iff {limit : Float} (h : isComplexityLimit limit = true) (n : UInt32) :
    ¬ n.toFloat ≤ limit ↔ limit < n.toFloat :=
  ⟨FloatOrder.lt_of_not_le (of_decide_eq_true h) (FloatOrder.toFloat_le_self n),
    FloatOrder.not_le_of_lt⟩

/-! ### Issues without their words -/

/-- The issue without its words. -/
def Issue.withoutMessage (i : Issue) : Issue := { i with message := "" }

namespace StructuralRule

/-- The issue about a function that is too complex, without its words. -/
def wordlessComplexityIssue (critical? : Option Float) (f : FunctionEntry) : Issue where
  kind := .warning
  severity := if critical?.any (· < f.complexity.toFloat) then .high else .medium
  message := ""
  line := f.line
  rule := highComplexity.id

/-- Without their words, issues about complexity depend on the limit only in which functions they
are about. -/
theorem map_withoutMessage_complexityIssues {threshold : ComplexityThreshold}
    (h : isComplexityLimit threshold.limit = true) (functions : List FunctionEntry) :
    (functions.filterMap (complexityIssue? threshold)).map Issue.withoutMessage
      = (functions.filter fun f => threshold.limit < f.complexity.toFloat).map
          (wordlessComplexityIssue threshold.critical?) := by
  induction functions with
  | nil => rfl
  | cons f functions ih =>
    have hiff := not_toFloat_le_iff h f.complexity
    by_cases hwithin : f.complexity.toFloat ≤ threshold.limit
    · have hlt : ¬ threshold.limit < f.complexity.toFloat := fun hlt => hiff.2 hlt hwithin
      have hnone : complexityIssue? threshold f = none := if_pos hwithin
      rw [List.filterMap_cons_none hnone, List.filter_cons_of_neg (by simpa using hlt), ih]
    · have hlt : threshold.limit < f.complexity.toFloat := hiff.1 hwithin
      have hsome : complexityIssue? threshold f = some _ := if_neg hwithin
      rw [List.filterMap_cons_some hsome, List.filter_cons_of_pos (by simpa using hlt),
        List.map_cons, List.map_cons, ih]
      rfl

variable {strict loose : EffectiveOptions} (h : strict.StricterThan loose) (outline : Outline)
  (m : Metrics)
include h

/-- A structural rule raises under loose options what it raises under strict ones, or less. -/
theorem map_withoutMessage_issues_sublist (rule : StructuralRule) :
    ((rule.issues loose outline m).map Issue.withoutMessage).Sublist
      ((rule.issues strict outline m).map Issue.withoutMessage) := by
  cases rule with
  | highComplexity =>
    show ((outline.functions.filterMap (complexityIssue? loose.complexity)).map _).Sublist
      ((outline.functions.filterMap (complexityIssue? strict.complexity)).map _)
    rw [map_withoutMessage_complexityIssues h.loose_inRange,
      map_withoutMessage_complexityIssues h.strict_inRange, h.critical_eq]
    apply List.Sublist.map
    apply List.monotone_filter_right
    intro f hf
    exact decide_eq_true (h.limit_lt f.complexity (of_decide_eq_true hf))
  | largeClass => exact List.Sublist.refl _
  | lowMaintainability =>
    rw [h.loose_eq]
    exact List.Sublist.refl _

/-- All rules but the one about complexity raise the same under both options. -/
theorem issues_eq_of_ne {rule : StructuralRule} (hrule : rule ≠ .highComplexity) :
    rule.issues loose outline m = rule.issues strict outline m := by
  cases rule with
  | highComplexity => exact absurd rfl hrule
  | largeClass => rfl
  | lowMaintainability =>
    rw [h.loose_eq]
    rfl

end StructuralRule

/-! ### The issues of a review -/

namespace Review

/-- The issues of a review without their words, which neither the choice nor the order of the issues
depends on. -/
theorem map_withoutMessage_issues (b : Binding) (path : String) (options : EffectiveOptions)
    (text : List Char) :
    (ofResolved b path options text).issues.map Issue.withoutMessage
      = (((raisedIssues b options text).map Issue.withoutMessage).filter
          (isReported options (b.analyzer.metrics (b.analyzer.outline text)
            options.skipDependencies text))).mergeSort Issue.notAfter := by
  have hsort : ∀ issues : List Issue, (issues.mergeSort Issue.notAfter).map Issue.withoutMessage
      = (issues.map Issue.withoutMessage).mergeSort Issue.notAfter :=
    fun _ => List.map_mergeSort fun _ _ _ _ => rfl
  rw [issues_ofResolved, hsort, List.filter_map]
  rfl

variable {strict loose : EffectiveOptions} (h : strict.StricterThan loose) (b : Binding)
  (text : List Char)
include h

/-- Under loose options, the same issues are raised without their words, or fewer. -/
theorem map_withoutMessage_raisedIssues_sublist :
    ((raisedIssues b loose text).map Issue.withoutMessage).Sublist
      ((raisedIssues b strict text).map Issue.withoutMessage) := by
  unfold raisedIssues StructuralRule.allIssues EffectiveOptions.isEnabled
  simp only [h.rules_eq, h.skipDependencies_eq, List.map_append, List.map_flatMap]
  refine List.Sublist.append (List.Sublist.flatMap_right _ fun rule _ => ?_) (List.Sublist.refl _)
  split
  · exact StructuralRule.map_withoutMessage_issues_sublist h _ _ rule
  · exact List.Sublist.refl _

/-- Apart from complexity, the same issues are raised under both options. -/
theorem filter_ne_raisedIssues :
    (raisedIssues b loose text).filter (·.rule != StructuralRule.highComplexity.id)
      = (raisedIssues b strict text).filter (·.rule != StructuralRule.highComplexity.id) := by
  unfold raisedIssues StructuralRule.allIssues EffectiveOptions.isEnabled
  simp only [h.rules_eq, h.skipDependencies_eq, List.filter_append, List.filter_flatMap]
  congr 1
  apply List.flatMap_congr
  intro rule _
  split
  · by_cases hrule : rule = .highComplexity
    · -- Everything that this rule raises is filtered out.
      have hnone : ∀ (options : EffectiveOptions) (outline : Outline) (m : Metrics),
          (rule.issues options outline m).filter
            (·.rule != StructuralRule.highComplexity.id) = [] := by
        intro options outline m
        rw [List.filter_eq_nil_iff]
        intro i hi
        simp [StructuralRule.rule_of_mem_issues hi, hrule]
      rw [hnone, hnone]
    · rw [StructuralRule.issues_eq_of_ne h _ _ hrule]
  · rfl

/-- What is reported under loose options is reported under strict ones. -/
theorem isReported_of_isReported (m : Metrics) {i : Issue} (hi : isReported loose m i = true) :
    isReported strict m i = true := by
  unfold isReported EffectiveOptions.isEnabled at hi ⊢
  rw [h.rules_eq, Bool.and_eq_true, Bool.or_eq_true] at hi
  rw [Bool.and_eq_true, Bool.or_eq_true]
  refine ⟨hi.1, hi.2.imp_right fun hlt => ?_⟩
  exact decide_eq_true (h.limit_lt m.complexity (of_decide_eq_true hlt))

/-- Apart from complexity, the same is reported under both options. -/
theorem isReported_eq_of_ne (m : Metrics) {i : Issue}
    (hi : (i.rule != StructuralRule.highComplexity.id) = true) :
    isReported loose m i = isReported strict m i := by
  unfold isReported EffectiveOptions.isEnabled
  rw [h.rules_eq, hi, Bool.true_or, Bool.true_or]

/-- Under loose options, the same issues without their words are in the review, or fewer. -/
theorem map_withoutMessage_issues_sublist (path : String) :
    ((ofResolved b path loose text).issues.map Issue.withoutMessage).Sublist
      ((ofResolved b path strict text).issues.map Issue.withoutMessage) := by
  rw [map_withoutMessage_issues, map_withoutMessage_issues, h.skipDependencies_eq]
  apply StableSort.mergeSort_sublist Issue.notAfter_trans Issue.notAfter_total
  exact ((map_withoutMessage_raisedIssues_sublist h b text).filter _).trans
    (List.monotone_filter_right _ fun i hi => isReported_of_isReported h _ hi)

/-- Apart from complexity, the same issues are in the review, with their words. -/
theorem filter_ne_issues (path : String) :
    (ofResolved b path loose text).issues.filter (·.rule != StructuralRule.highComplexity.id)
      = (ofResolved b path strict text).issues.filter
          (·.rule != StructuralRule.highComplexity.id) := by
  have hraised := filter_ne_raisedIssues h b text
  rw [issues_ofResolved, issues_ofResolved,
    StableSort.filter_mergeSort Issue.notAfter_trans Issue.notAfter_total,
    StableSort.filter_mergeSort Issue.notAfter_trans Issue.notAfter_total]
  unfold reportedIssues
  simp only
  rw [StableSort.filter_filter_comm, StableSort.filter_filter_comm _ _ (raisedIssues b strict text),
    hraised, h.skipDependencies_eq]
  congr 1
  apply List.filter_congr
  intro i hi
  exact isReported_eq_of_ne h _ (List.mem_filter.1 hi).2

theorem metrics_eq (path : String) :
    (ofResolved b path loose text).metrics = (ofResolved b path strict text).metrics := by
  show b.analyzer.metrics _ loose.skipDependencies text = _
  rw [h.skipDependencies_eq]
  rfl

theorem suggestions_eq (path : String) :
    (ofResolved b path loose text).suggestions = (ofResolved b path strict text).suggestions := by
  have hinclude : loose.includeSuggestions = strict.includeSuggestions := by rw [h.loose_eq]
  unfold ofResolved
  simp only [hinclude, h.skipDependencies_eq]

end Review

/-- **A lower limit of complexity gives a superset.** Take any analyzer and two sets of valid
options that differ in their complexity thresholds only, and let these agree in what counts as
critical. If every integer beyond the limit of `loose` is beyond the limit of `strict`, then the
issues under `loose` are, without their words, a subsequence of those under `strict`. The issues
that are not about complexity are the same in both reviews, and so are metrics and suggestions. -/
theorem issues_under_lower_limit (b : Binding) (path text : String) (strict loose : Options)
    (hsame : strict.AgreeBesideComplexity loose) (low high : EffectiveOptions)
    (hlow : EffectiveOptions.resolve strict b.defaultRules b.defaultThresholds = .ok low)
    (hhigh : EffectiveOptions.resolve loose b.defaultRules b.defaultThresholds = .ok high)
    (hcritical : low.complexity.critical? = high.complexity.critical?)
    (hlimits : ∀ n : UInt32,
      high.complexity.limit < n.toFloat → low.complexity.limit < n.toFloat) :
    ∃ r s : Review,
      Review.ofText b path strict text = .ok r ∧ Review.ofText b path loose text = .ok s ∧
      (s.issues.map Issue.withoutMessage).Sublist (r.issues.map Issue.withoutMessage) ∧
      s.issues.filter (·.rule != StructuralRule.highComplexity.id)
        = r.issues.filter (·.rule != StructuralRule.highComplexity.id) ∧
      s.metrics = r.metrics ∧ s.suggestions = r.suggestions := by
  have heq := EffectiveOptions.eq_of_agreeBesideComplexity hsame hlow hhigh
  have hstricter : low.StricterThan high :=
    ⟨heq, EffectiveOptions.isComplexityLimit_limit hlow,
      EffectiveOptions.isComplexityLimit_limit hhigh, hlimits, hcritical⟩
  refine ⟨Review.ofResolved b path low text.toList, Review.ofResolved b path high text.toList,
    ?_, ?_, Review.map_withoutMessage_issues_sublist hstricter b text.toList path,
    Review.filter_ne_issues hstricter b text.toList path, ?_, ?_⟩
  · unfold Review.ofText
    rw [hlow]
  · unfold Review.ofText
    rw [hhigh]
  · exact Review.metrics_eq hstricter b text.toList path
  · exact Review.suggestions_eq hstricter b text.toList path

/-- The statement at an analyzer that reports complexity itself, and issues of another rule. The
text exceeds both limits, as one of its functions does; the other function exceeds only the lower
one. So the review under the higher limit has issues of both rules, and lacks one. -/
theorem issues_under_lower_limit_canned :
    let a : Analyzer :=
      { id := "text", extensions := ["txt"], defaultRules := ["high-complexity", "todo"]
        complexity := fun _ => 60
        outline := fun _ =>
          { functions := [⟨"short", 1, 2, 0, 5, false⟩, ⟨"long", 3, 9, 0, 60, false⟩] }
        check := fun _ _ =>
          [⟨.info, .low, "by the analyzer", 2, none, "high-complexity", none⟩,
            ⟨.info, .low, "left to do", 4, none, "todo", none⟩]
        advise := fun _ _ => [] }
    let strict : Options := { thresholds := some { complexity := some (.single 3) } }
    let loose : Options := { thresholds := some { complexity := some (.single 50) } }
    ∃ r s : Review,
      Review.ofText (Binding.ofAnalyzer a) "a.txt" strict "x\n" = .ok r ∧
      Review.ofText (Binding.ofAnalyzer a) "a.txt" loose "x\n" = .ok s ∧
      (r.issues.length = 4 ∧ s.issues.length = 3 ∧ ∃ i ∈ s.issues, i.rule = "todo") ∧
      (s.issues.map Issue.withoutMessage).Sublist (r.issues.map Issue.withoutMessage) ∧
      s.issues.filter (·.rule != StructuralRule.highComplexity.id)
        = r.issues.filter (·.rule != StructuralRule.highComplexity.id) ∧
      s.metrics = r.metrics ∧ s.suggestions = r.suggestions := by
  intro a strict loose
  let low := EffectiveOptions.effective strict ["high-complexity", "todo"] {}
  let high := EffectiveOptions.effective loose ["high-complexity", "todo"] {}
  -- The two options are compared field by field, so that no limit is ever compared with another.
  have hsame : strict.AgreeBesideComplexity loose := by
    constructor <;> simp only [strict, loose, Option.bind_some]
  have hlow : low.complexity.critical? = none := rfl
  have hhigh : high.complexity.critical? = none := rfl
  have hlimits : ∀ n : UInt32, (50 : Float) < n.toFloat → (3 : Float) < n.toFloat :=
    fun n hn => FloatOrder.lt_of_le_of_lt (by decide) hn
  obtain ⟨r, s, hr, hs, hrest⟩ :=
    issues_under_lower_limit (Binding.ofAnalyzer a) "a.txt" "x\n" strict loose hsame
      low high rfl rfl (hlow.trans hhigh.symm) hlimits
  have hr' : Review.ofResolved (Binding.ofAnalyzer a) "a.txt" low "x\n".toList = r :=
    Except.ok.inj hr
  have hs' : Review.ofResolved (Binding.ofAnalyzer a) "a.txt" high "x\n".toList = s :=
    Except.ok.inj hs
  refine ⟨r, s, hr, hs, ⟨?_, ?_, ?_⟩, hrest⟩
  · rw [← hr', Review.issues_ofResolved, List.length_mergeSort]
    decide
  · rw [← hs', Review.issues_ofResolved, List.length_mergeSort]
    decide
  · simp only [← hs', Review.issues_ofResolved, List.mem_mergeSort]
    decide

end SourceReview
