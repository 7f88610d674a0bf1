import SourceReview.Language.Known
import SourceReview.Proofs.Review.RuleSelection

/-!
# Reviews without dependencies

Options may ask for a review that lists no dependencies. Such a review differs from the one with
dependencies in that list, and in what is computed from it (`review_without_dependencies`). The list
is emptied before the text is rated, so in a language that rates the number of dependencies the
maintainability is another, and with it the technical debt and the issue about low maintainability.
Python is the only such language. In all others, the switch empties the list and does no more.

The metrics of the two reviews are compared first (`Language.metrics_skip`), then the issues, rule by
rule: the only rule that looks at a metric that may have changed is the one about maintainability.
-/

namespace SourceReview

/-! ### Metrics -/

namespace Score.Upkeep

/-- Where dependencies do not count, they have no effect. -/
theorem maintainability_withDependencies {u : Upkeep} (hu : u.countsDependencies = false)
    (m : Metrics) (dependencies : List String) :
    u.maintainability { m with dependencies } = u.maintainability m := by
  unfold maintainability excessComplexity
  simp only [hu, Bool.false_eq_true, if_false]

end Score.Upkeep

namespace Language

/-- Python is the only known language in which dependencies count. -/
theorem countsDependencies_known :
    ∀ l ∈ known, l.id ≠ "python" → l.upkeep.countsDependencies = false := by
  decide

theorem known_checksEachRule {l : Language} (hl : l ∈ known) : l.analyzer.ChecksEachRule :=
  checksEachRule (known_reportsOwn l hl)

variable (l : Language) (outline : Outline) (text : List Char)

/-- What becomes of the metrics if the dependencies are left out. -/
theorem metrics_skip :
    let m₁ := l.analyzer.metrics outline true text
    let m₂ := l.analyzer.metrics outline false text
    m₁ = { m₂ with
      dependencies := []
      maintainability :=
        Score.toPercent (l.upkeep.maintainability { m₂ with dependencies := [] })
      technicalDebt :=
        boundedDebt (Score.technicalDebt { m₂ with maintainability := m₁.maintainability }) } :=
  rfl

/-- The maintainability stays the same unless there are dependencies that count. -/
theorem maintainability_skip
    (h : l.upkeep.countsDependencies = false ∨ outline.distinctImports = []) :
    (l.analyzer.metrics outline true text).maintainability
      = (l.analyzer.metrics outline false text).maintainability := by
  let counted := l.analyzer.countedMetrics outline false text
  show Score.toPercent (l.upkeep.maintainability { counted with dependencies := [] })
    = Score.toPercent (l.upkeep.maintainability counted)
  rcases h with hcounts | hnone
  · rw [Score.Upkeep.maintainability_withDependencies hcounts]
  · have hcounted : { counted with dependencies := [] } = counted := by
      rw [← hnone]
      rfl
    rw [hcounted]

/-- If the maintainability stays the same, so does everything but the dependencies. -/
theorem metrics_skip_of_maintainability
    (h : (l.analyzer.metrics outline true text).maintainability
      = (l.analyzer.metrics outline false text).maintainability) :
    l.analyzer.metrics outline true text
      = { l.analyzer.metrics outline false text with dependencies := [] } := by
  let m₁ := l.analyzer.metrics outline true text
  let m₂ := l.analyzer.metrics outline false text
  have hdebt : m₁.technicalDebt = m₂.technicalDebt := by
    show boundedDebt (Score.technicalDebt { m₂ with maintainability := m₁.maintainability })
      = m₂.technicalDebt
    rw [h]
    rfl
  calc m₁
      = { m₂ with
          dependencies := []
          maintainability := m₁.maintainability
          technicalDebt := m₁.technicalDebt } := rfl
    _ = { m₂ with dependencies := [] } := by rw [h, hdebt]

/-- Advice looks neither at dependencies nor at maintainability and technical debt. -/
theorem advise_withRatings (m : Metrics) (dependencies : List String)
    (maintainability technicalDebt : Float) :
    l.advise { m with dependencies, maintainability, technicalDebt } text = l.advise m text :=
  rfl

theorem advise_skip :
    l.advise (l.analyzer.metrics outline true text) text
      = l.advise (l.analyzer.metrics outline false text) text := by
  rw [metrics_skip]
  exact l.advise_withRatings text _ _ _ _

end Language

/-! ### Issues -/

namespace StructuralRule

/-- A structural rule raises the same with and without dependencies, unless it is the one about
maintainability and that has changed. -/
theorem issues_skip {rule : StructuralRule} (a : Analyzer) (outline : Outline) (text : List Char)
    (h : rule ≠ .lowMaintainability ∨ (a.metrics outline true text).maintainability
      = (a.metrics outline false text).maintainability) (options : EffectiveOptions) :
    rule.issues { options with skipDependencies := true } outline (a.metrics outline true text)
      = rule.issues { options with skipDependencies := false } outline
          (a.metrics outline false text) := by
  cases rule with
  | highComplexity => simp only [issues]
  | largeClass => simp only [issues]
  | lowMaintainability =>
    have hlines : (a.metrics outline true text).linesOfCode
        = (a.metrics outline false text).linesOfCode := rfl
    have hsame := h.resolve_left fun hne => hne rfl
    simp only [issues, maintainabilityIssue?, hlines, hsame]

end StructuralRule

namespace Review

/-- The issues of a review under one rule. -/
theorem filter_rule_issues {b : Binding} (hb : b.analyzer.ChecksEachRule) (path : String)
    {options : EffectiveOptions} (hrules : options.rules.Nodup) (text : List Char) (rule : String) :
    (ofResolved b path options text).issues.filter (·.rule == rule)
      = if rule ∈ options.rules then
          (issuesUnder b options text rule).mergeSort Issue.notAfter
        else [] := by
  rw [issues_ofResolved, StableSort.filter_mergeSort Issue.notAfter_trans Issue.notAfter_total,
    filter_reportedIssues hb hrules]
  split
  · rfl
  · exact List.mergeSort_nil

/-- Reviews with the same rules that report the same under each of the rules to `keep` agree in the
issues of these rules. -/
theorem filter_issues_eq {b : Binding} (hb : b.analyzer.ChecksEachRule) (path : String)
    (first second : EffectiveOptions) (hrules : first.rules.Nodup)
    (hsame : first.rules = second.rules) (text : List Char) (keep : String → Bool)
    (hunder : ∀ rule, keep rule = true →
      issuesUnder b first text rule = issuesUnder b second text rule) :
    (ofResolved b path first text).issues.filter (fun i => keep i.rule)
      = (ofResolved b path second text).issues.filter (fun i => keep i.rule) := by
  rw [issues_ofResolved, issues_ofResolved,
    StableSort.filter_mergeSort Issue.notAfter_trans Issue.notAfter_total,
    StableSort.filter_mergeSort Issue.notAfter_trans Issue.notAfter_total]
  apply Issue.mergeSort_eq_of_filter_rule
  intro rule
  rw [StableSort.filter_filter_comm, StableSort.filter_filter_comm _ _ (reportedIssues b second text),
    filter_reportedIssues hb hrules, filter_reportedIssues hb (hsame ▸ hrules), ← hsame]
  by_cases hkeep : keep rule = true
  · rw [hunder rule hkeep]
  · -- The rule is not kept, and all issues in sight are its own.
    have hnone : ∀ options : EffectiveOptions,
        (issuesUnder b options text rule).filter (fun i => keep i.rule) = [] := by
      intro options
      rw [List.filter_eq_nil_iff]
      intro i hi
      rw [rule_of_mem_raisedUnder hb (List.mem_filter.1 hi).1]
      exact hkeep
    split
    · rw [hnone, hnone]
    · rfl

/-- With and without dependencies, the same is reported under every rule but the one about
maintainability, and under that one as well if the maintainability is the same. -/
theorem issuesUnder_skip (b : Binding) (options : EffectiveOptions) (text : List Char)
    {rule : String}
    (h : rule ≠ StructuralRule.lowMaintainability.id ∨
      (b.analyzer.metrics (b.analyzer.outline text) true text).maintainability
        = (b.analyzer.metrics (b.analyzer.outline text) false text).maintainability) :
    issuesUnder b { options with skipDependencies := true } text rule
      = issuesUnder b { options with skipDependencies := false } text rule := by
  have hraised : raisedUnder b { options with skipDependencies := true } text rule
      = raisedUnder b { options with skipDependencies := false } text rule := by
    unfold raisedUnder
    simp only
    congr 1
    apply List.flatMap_congr
    intro s _
    split
    · rename_i hid
      have hrule : s.id = rule := by simpa using hid
      apply StructuralRule.issues_skip
      refine h.imp_left fun hne hs => hne ?_
      rw [← hrule, hs]
    · rfl
  unfold issuesUnder
  rw [hraised]
  rfl

/-- With and without dependencies, reviews agree in the issues of every rule but the one about
maintainability, and of that one as well if the maintainability is the same. -/
theorem filter_issues_skip {b : Binding} (hb : b.analyzer.ChecksEachRule) (path : String)
    {options : EffectiveOptions} (hrules : options.rules.Nodup) (text : List Char)
    (keep : String → Bool)
    (h : keep StructuralRule.lowMaintainability.id = false ∨
      (b.analyzer.metrics (b.analyzer.outline text) true text).maintainability
        = (b.analyzer.metrics (b.analyzer.outline text) false text).maintainability) :
    (ofResolved b path { options with skipDependencies := true } text).issues.filter
        (fun i => keep i.rule)
      = (ofResolved b path { options with skipDependencies := false } text).issues.filter
          (fun i => keep i.rule) := by
  refine filter_issues_eq hb path { options with skipDependencies := true }
    { options with skipDependencies := false } hrules rfl text keep ?_
  intro rule hkeep
  apply issuesUnder_skip
  refine h.imp_left ?_
  rintro hdropped rfl
  rw [hkeep] at hdropped
  cases hdropped

/-- Under the rule about maintainability, a review of a known language reports what the metrics of
the text raise. -/
theorem issuesUnder_lowMaintainability {b : Binding} {l : Language} (hl : l ∈ Language.known)
    (hb : b.analyzer = l.analyzer) (options : EffectiveOptions) (text : List Char) :
    issuesUnder b options text StructuralRule.lowMaintainability.id
      = (StructuralRule.maintainabilityIssue? options.maintainability
          (b.analyzer.metrics (b.analyzer.outline text) options.skipDependencies text)).toList := by
  let m := b.analyzer.metrics (b.analyzer.outline text) options.skipDependencies text
  have hcheck : b.analyzer.check [StructuralRule.lowMaintainability.id] text = [] := by
    rw [hb, List.eq_nil_iff_forall_not_mem]
    intro i hi
    obtain ⟨rule, hrule, hid, -⟩ := Rule.exists_of_mem_checkAll hi
    rw [List.mem_singleton] at hid
    exact Language.known_id_ne_structural l hl rule hrule .lowMaintainability hid
  have hraised : raisedUnder b options text StructuralRule.lowMaintainability.id
      = StructuralRule.lowMaintainability.issues options (b.analyzer.outline text) m := by
    unfold raisedUnder
    simp only
    rw [hcheck, List.append_nil]
    simp [StructuralRule.all, StructuralRule.id, m]
  unfold issuesUnder
  rw [hraised]
  apply List.filter_eq_self.2
  intro i hi
  rw [StructuralRule.rule_of_mem_issues hi]
  rfl

/-- The issues about low maintainability, of which there is at most one, go by the metrics of the
review. -/
theorem filter_lowMaintainability_issues {b : Binding} {l : Language} (hl : l ∈ Language.known)
    (hb : b.analyzer = l.analyzer) (path : String) (options : EffectiveOptions)
    (hrules : options.rules.Nodup) (text : List Char) :
    (ofResolved b path options text).issues.filter
        (·.rule == StructuralRule.lowMaintainability.id)
      = if StructuralRule.lowMaintainability.id ∈ options.rules then
          (StructuralRule.maintainabilityIssue? options.maintainability
            (ofResolved b path options text).metrics).toList
        else [] := by
  have hchecks : b.analyzer.ChecksEachRule := hb ▸ Language.known_checksEachRule hl
  have hsorted : ∀ found : Option Issue, found.toList.mergeSort Issue.notAfter = found.toList := by
    intro found
    cases found with
    | none => exact List.mergeSort_nil
    | some i => exact List.mergeSort_singleton i
  rw [filter_rule_issues hchecks path hrules, issuesUnder_lowMaintainability hl hb, hsorted]
  rfl

theorem metrics_ofResolved {b : Binding} {l : Language} (hb : b.analyzer = l.analyzer)
    (path : String) (options : EffectiveOptions) (text : List Char) :
    (ofResolved b path options text).metrics
      = l.analyzer.metrics (l.analyzer.outline text) options.skipDependencies text := by
  show b.analyzer.metrics (b.analyzer.outline text) options.skipDependencies text = _
  rw [hb]

theorem suggestions_ofResolved {b : Binding} {l : Language} (hb : b.analyzer = l.analyzer)
    (path : String) (options : EffectiveOptions) (text : List Char) :
    (ofResolved b path options text).suggestions
      = if options.includeSuggestions then
          (l.advise (l.analyzer.metrics (l.analyzer.outline text) options.skipDependencies text)
            text).mergeSort fun a b => a.line ≤ b.line
        else [] := by
  show (if options.includeSuggestions then
    (b.analyzer.advise (ofResolved b path options text).metrics text).mergeSort
      fun a b => a.line ≤ b.line else []) = _
  rw [metrics_ofResolved hb, hb]
  rfl

theorem suggestions_skip {b : Binding} {l : Language} (hb : b.analyzer = l.analyzer)
    (path : String) (options : EffectiveOptions) (text : List Char) :
    (ofResolved b path { options with skipDependencies := true } text).suggestions
      = (ofResolved b path { options with skipDependencies := false } text).suggestions := by
  rw [suggestions_ofResolved hb, suggestions_ofResolved hb, l.advise_skip]

/-- If the maintainability stays the same, the whole review does, but for the dependencies. -/
theorem ofResolved_skip_of_maintainability {b : Binding} {l : Language} (hl : l ∈ Language.known)
    (hb : b.analyzer = l.analyzer) (path : String) (options : EffectiveOptions)
    (hrules : options.rules.Nodup) (text : List Char)
    (h : (l.analyzer.metrics (l.analyzer.outline text) true text).maintainability
      = (l.analyzer.metrics (l.analyzer.outline text) false text).maintainability) :
    let r := ofResolved b path { options with skipDependencies := false } text
    ofResolved b path { options with skipDependencies := true } text
      = { r with metrics := { r.metrics with dependencies := [] } } := by
  let review (skip : Bool) : Review :=
    ofResolved b path { options with skipDependencies := skip } text
  have hmetrics : (review true).metrics = { (review false).metrics with dependencies := [] } := by
    rw [metrics_ofResolved hb, metrics_ofResolved hb]
    exact l.metrics_skip_of_maintainability _ _ h
  have hissues : (review true).issues = (review false).issues := by
    rw [← hb] at h
    have hall := filter_issues_skip (hb ▸ Language.known_checksEachRule hl) path hrules text
      (fun _ => true) (.inr h)
    rwa [List.filter_true, List.filter_true] at hall
  calc review true
      = { filePath := path, language := b.name, issues := (review true).issues
          metrics := (review true).metrics, suggestions := (review true).suggestions } := rfl
    _ = { filePath := path, language := b.name, issues := (review false).issues
          metrics := { (review false).metrics with dependencies := [] }
          suggestions := (review false).suggestions } := by
        rw [hissues, hmetrics, suggestions_skip hb path options text]
    _ = { review false with
          metrics := { (review false).metrics with dependencies := [] } } := rfl

end Review

/-- **Leaving out the dependencies.** Take a known language, a text and valid options. Whether
dependencies are to be left out or not, there is a review, and the two reviews have the same path,
language and suggestions. One lists no dependencies, the other all imports, each once. The other
metrics are the same, except that maintainability and technical debt are computed anew without
dependencies. The issues are the same, except that the one about low maintainability goes by the
metrics of its own review.

So if the language is not Python, or the text imports nothing, or the maintainability happens to be
the same, then the reviews differ in the list of dependencies only. -/
theorem review_without_dependencies (l : Language) (hl : l ∈ Language.known) (b : Binding)
    (hb : b.analyzer = l.analyzer) (path text : String) (options : Options)
    (resolved : EffectiveOptions)
    (hresolved :
      EffectiveOptions.resolve options b.defaultRules b.defaultThresholds = .ok resolved) :
    ∃ r₁ r₂ : Review,
      Review.ofText b path { options with skipDependencies := some true } text = .ok r₁ ∧
      Review.ofText b path { options with skipDependencies := some false } text = .ok r₂ ∧
      r₁.filePath = r₂.filePath ∧ r₁.language = r₂.language ∧ r₁.suggestions = r₂.suggestions ∧
      r₂.metrics.dependencies = (l.outline text.toList).imports.eraseDups ∧
      r₁.metrics = { r₂.metrics with
        dependencies := []
        maintainability :=
          Score.toPercent (l.upkeep.maintainability { r₂.metrics with dependencies := [] })
        technicalDebt := boundedDebt
          (Score.technicalDebt { r₂.metrics with maintainability := r₁.metrics.maintainability }) } ∧
      r₁.issues.filter (·.rule != StructuralRule.lowMaintainability.id)
        = r₂.issues.filter (·.rule != StructuralRule.lowMaintainability.id) ∧
      (∀ r ∈ [r₁, r₂], r.issues.filter (·.rule == StructuralRule.lowMaintainability.id)
        = if StructuralRule.lowMaintainability.id ∈ resolved.rules then
            (StructuralRule.maintainabilityIssue? resolved.maintainability r.metrics).toList
          else []) ∧
      (l.id ≠ "python" ∨ r₂.metrics.dependencies = [] ∨
          r₁.metrics.maintainability = r₂.metrics.maintainability →
        r₁ = { r₂ with metrics := { r₂.metrics with dependencies := [] } }) := by
  have hchecks : b.analyzer.ChecksEachRule := hb ▸ Language.known_checksEachRule hl
  have hrules : resolved.rules.Nodup := by
    obtain ⟨-, -, rfl⟩ := EffectiveOptions.resolve_eq_ok_iff.1 hresolved
    exact nodup_eraseDups _
  let review (skip : Bool) : Review :=
    Review.ofResolved b path { resolved with skipDependencies := skip } text.toList
  have hreview : ∀ skip, Review.ofText b path { options with skipDependencies := some skip } text
      = .ok (review skip) := by
    intro skip
    unfold Review.ofText
    rw [EffectiveOptions.resolve_skipDependencies hresolved]
  have hmetrics : ∀ skip, (review skip).metrics
      = l.analyzer.metrics (l.analyzer.outline text.toList) skip text.toList :=
    fun _ => Review.metrics_ofResolved hb path _ text.toList
  have hpath : ∀ skip, (review skip).filePath = path := fun _ => rfl
  have hname : ∀ skip, (review skip).language = b.name := fun _ => rfl
  refine ⟨review true, review false, hreview true, hreview false,
    (hpath true).trans (hpath false).symm, (hname true).trans (hname false).symm,
    Review.suggestions_skip hb path resolved text.toList, ?_, ?_, ?_, ?_, ?_⟩
  · rw [hmetrics]
    rfl
  · rw [hmetrics, hmetrics]
    exact l.metrics_skip _ _
  · exact Review.filter_issues_skip hchecks path hrules text.toList
      (· != StructuralRule.lowMaintainability.id) (.inl rfl)
  · have hlow := fun skip => Review.filter_lowMaintainability_issues hl hb path
      { resolved with skipDependencies := skip } hrules text.toList
    intro r hr
    rcases List.mem_pair.1 hr with rfl | rfl
    · exact hlow true
    · exact hlow false
  · intro h
    rw [hmetrics, hmetrics] at h
    apply Review.ofResolved_skip_of_maintainability hl hb path resolved hrules
    rcases h with hid | hnone | hsame
    · exact l.maintainability_skip _ _ (.inl (Language.countsDependencies_known l hl hid))
    · exact l.maintainability_skip _ _ (.inr hnone)
    · exact hsame

/-- The statement at a class with an import. -/
theorem review_without_dependencies_java :
    let b : Binding := ⟨"java", Language.java.analyzer, Language.java.defaultRules, {}⟩
    let text := "import java.util.List;\nclass A \x7b\n\x7d\n"
    ∃ r₁ r₂ : Review,
      Review.ofText b "A.java" { skipDependencies := some true } text = .ok r₁ ∧
      Review.ofText b "A.java" { skipDependencies := some false } text = .ok r₂ ∧
      r₂.metrics.dependencies = ["java.util.List"] ∧
      r₁ = { r₂ with metrics := { r₂.metrics with dependencies := [] } } := by
  intro b text
  obtain ⟨r₁, r₂, h₁, h₂, -, -, -, himports, -, -, -, hsame⟩ :=
    review_without_dependencies Language.java (by simp [Language.known]) b rfl "A.java" text {} _ rfl
  have hlist : (Language.java.outline text.toList).imports.eraseDups = ["java.util.List"] := by
    decide
  exact ⟨r₁, r₂, h₁, h₂, himports.trans hlist, hsame (.inl (by decide))⟩

/-- In Python, leaving out two dependencies makes a text easier to maintain by one point. -/
theorem review_without_dependencies_python :
    let b : Binding := ⟨"python", Language.python.analyzer, [], {}⟩
    let text := "import os\nimport sys\n"
    ∃ r₁ r₂ : Review,
      Review.ofText b "a.py" { skipDependencies := some true } text = .ok r₁ ∧
      Review.ofText b "a.py" { skipDependencies := some false } text = .ok r₂ ∧
      r₁.metrics.maintainability = 92.5 ∧ r₂.metrics.maintainability = 91.5 := by
  intro b text
  exact ⟨_, _, rfl, rfl, by decide +kernel, by decide +kernel⟩

end SourceReview
