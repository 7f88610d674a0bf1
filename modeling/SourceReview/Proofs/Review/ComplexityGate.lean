import SourceReview.Proofs.FloatOrder
import SourceReview.Proofs.Outline.Complexity
import SourceReview.Proofs.Review.RuleSelection

/-!
# Complex functions stand in complex texts

A review reports that a function is too complex only if the whole text is beyond the limit as well.
For a known language this second condition never hides anything (`complexity_gate_keeps_issues`). A
function is not more complex than its text, so the text exceeds every limit that the function
exceeds. This needs a limit that can be compared with, which is why options are checked: no valid
limit is below one, and what is not a number is not at least one.
-/

namespace SourceReview

/-- The complexity in the metrics of a text is at least the score of the text. -/
theorem Analyzer.complexity_le_metrics (a : Analyzer) (outline : Outline) (skip : Bool)
    (text : List Char) : a.complexity text ≤ (a.metrics outline skip text).complexity := by
  show a.complexity text ≤ if a.complexity text < 1 then 1 else a.complexity text
  split
  · rename_i hlt
    exact UInt32.le_of_lt hlt
  · exact UInt32.le_refl _

/-- A limit that a function exceeds is exceeded by everything that is not less complex. -/
theorem EffectiveOptions.limit_lt_toFloat {options : Options} {defaultRules : List String}
    {defaults : Thresholds} {resolved : EffectiveOptions}
    (hresolved : resolve options defaultRules defaults = .ok resolved) {m n : UInt32}
    (hm : 1 ≤ m) (hmn : m ≤ n)
    (hexceeds : ¬ m.toFloat ≤ ComplexityThreshold.limit resolved.complexity) :
    ComplexityThreshold.limit resolved.complexity < n.toFloat := by
  have hlimit : 1 ≤ ComplexityThreshold.limit resolved.complexity :=
    of_decide_eq_true (isComplexityLimit_limit hresolved)
  have hself : m.toFloat ≤ m.toFloat := FloatOrder.toFloat_le_toFloat hm (UInt32.le_refl m)
  exact FloatOrder.lt_of_lt_of_le (FloatOrder.lt_of_not_le hlimit hself hexceeds)
    (FloatOrder.toFloat_le_toFloat hm hmn)

namespace Review

/-- An issue about complexity comes from a function that exceeds the limit. -/
theorem exists_function_of_mem_raisedIssues {b : Binding} {l : Language} (hl : l ∈ Language.known)
    (hb : b.analyzer = l.analyzer) {options : EffectiveOptions} {text : List Char} {i : Issue}
    (hi : i ∈ raisedIssues b options text) (hrule : i.rule = StructuralRule.highComplexity.id) :
    options.isEnabled i.rule = true ∧ ∃ f ∈ (b.analyzer.outline text).functions,
      ¬ f.complexity.toFloat ≤ ComplexityThreshold.limit options.complexity := by
  rcases List.mem_append.1 hi with hi | hi
  · obtain ⟨s, -, hs⟩ := List.mem_flatMap.1 hi
    split at hs
    · rename_i henabled
      have hid : i.rule = s.id := StructuralRule.rule_of_mem_issues hs
      obtain rfl : s = .highComplexity := by
        rw [hrule] at hid
        cases s with
        | highComplexity => rfl
        | largeClass => exact absurd hid (by decide)
        | lowMaintainability => exact absurd hid (by decide)
      refine ⟨hid ▸ henabled, ?_⟩
      obtain ⟨f, hf, hissue⟩ := List.mem_filterMap.1 hs
      refine ⟨f, hf, ?_⟩
      unfold StructuralRule.complexityIssue? at hissue
      simp only at hissue
      split at hissue
      · cases hissue
      · assumption
    · exact absurd hs List.not_mem_nil
  · -- The language itself has no such rule.
    rw [hb] at hi
    obtain ⟨rule, hmem, -, hi⟩ := Rule.exists_of_mem_checkAll hi
    have hid := Language.known_reportsOwn l hl rule hmem _ i hi
    exact absurd (hid.symm.trans hrule) (Language.known_id_ne_structural l hl rule hmem _)

/-- An issue is reported if a function exceeds the limit that is not more complex than its text. -/
theorem mem_reportedIssues_of_exceeds {b : Binding} {options : Options}
    {resolved : EffectiveOptions}
    (hresolved :
      EffectiveOptions.resolve options b.defaultRules b.defaultThresholds = .ok resolved)
    {text : List Char} {i : Issue} (hi : i ∈ raisedIssues b resolved text)
    (henabled : resolved.isEnabled i.rule = true) {f : FunctionEntry} (hone : 1 ≤ f.complexity)
    (hle : f.complexity ≤ b.analyzer.complexity text)
    (hexceeds : ¬ f.complexity.toFloat ≤ ComplexityThreshold.limit resolved.complexity) :
    i ∈ reportedIssues b resolved text := by
  refine List.mem_filter.2 ⟨hi, ?_⟩
  have hmetrics := b.analyzer.complexity_le_metrics (b.analyzer.outline text)
    resolved.skipDependencies text
  have hlimit := EffectiveOptions.limit_lt_toFloat hresolved hone (UInt32.le_trans hle hmetrics)
    hexceeds
  unfold isReported
  rw [henabled, decide_eq_true hlimit, Bool.or_true, Bool.and_true]

end Review

/-- **The limit on the whole text hides no complex function.** In a known language, every function
of a text without two carriage returns before a line feed has a complexity from one up to that of the
text, which is a sum of halves, rounded up and kept within 32 bits. So if options are valid, every
issue about complexity that is raised is in the review. -/
theorem complexity_gate_keeps_issues (l : Language) (hl : l ∈ Language.known) (text : String)
    (htext : ¬ ['\r', '\r', '\n'] <:+: text.toList) :
    (l.analyzer.complexity text.toList).toNat
        = min ((2 + Score.listingHalves l.weights (listing l.comments text.toList) + 1) / 2)
            (UInt32.size - 1) ∧
      (∀ f ∈ (l.analyzer.outline text.toList).functions,
        1 ≤ f.complexity ∧ f.complexity ≤ l.analyzer.complexity text.toList) ∧
      ∀ (b : Binding) (path : String) (options : Options) (resolved : EffectiveOptions),
        b.analyzer = l.analyzer →
        EffectiveOptions.resolve options b.defaultRules b.defaultThresholds = .ok resolved →
        ∃ review, Review.ofText b path options text = .ok review ∧
          ∀ i ∈ Review.raisedIssues b resolved text.toList,
            i.rule = StructuralRule.highComplexity.id → i ∈ review.issues := by
  have hfunctions : ∀ f ∈ (l.analyzer.outline text.toList).functions,
      1 ≤ f.complexity ∧ f.complexity ≤ l.analyzer.complexity text.toList := by
    intro f hf
    have hdeclared := Language.declared_of_mem_outline hl hf
    refine ⟨?_, hdeclared.complexity_le htext⟩
    rw [hdeclared.complexity_eq htext]
    exact Score.one_le_ofListing _ _
  refine ⟨Score.toNat_wholeOfHalves _, hfunctions, ?_⟩
  intro b path options resolved hb hresolved
  refine ⟨Review.ofResolved b path resolved text.toList, ?_, ?_⟩
  · unfold Review.ofText
    rw [hresolved]
  · intro i hi hrule
    obtain ⟨henabled, f, hf, hexceeds⟩ :=
      Review.exists_function_of_mem_raisedIssues hl hb hi hrule
    rw [hb] at hf
    obtain ⟨hone, hle⟩ := hfunctions f hf
    rw [← hb] at hle
    rw [Review.issues_ofResolved, List.mem_mergeSort]
    exact Review.mem_reportedIssues_of_exceeds hresolved hi henabled hone hle hexceeds

/-- The statement at a function that is as complex as its text, and a limit just below. -/
theorem complexity_gate_keeps_issues_single :
    let b : Binding := ⟨"python", Language.python.analyzer, ["high-complexity"], {}⟩
    let options : Options := { thresholds := some { complexity := some (.single 1) } }
    let text := "def f(x):\n    if x:\n        return 1\n"
    ∃ review, Review.ofText b "a.py" options text = .ok review ∧
      ∃ i ∈ review.issues, i.rule = "high-complexity" ∧ i.line = 1 := by
  intro b options text
  obtain ⟨-, -, h⟩ := complexity_gate_keeps_issues Language.python (by simp [Language.known]) text
    (by decide)
  let resolved := EffectiveOptions.ofThresholds options b.defaultRules
    (options.thresholdsOver b.defaultThresholds)
  obtain ⟨review, hreview, hissues⟩ := h b "a.py" options resolved rfl rfl
  have hfirst : ((Review.raisedIssues b resolved text.toList).head?.map fun i => (i.rule, i.line))
      = some ("high-complexity", 1) := by decide +kernel
  obtain ⟨i, hi, hparts⟩ := Option.map_eq_some_iff.1 hfirst
  obtain ⟨hrule, hline⟩ := Prod.mk.inj hparts
  exact ⟨review, hreview, i, hissues i (List.mem_of_head? hi) hrule, hrule, hline⟩

end SourceReview
