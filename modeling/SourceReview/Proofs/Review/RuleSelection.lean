import SourceReview.Proofs.Distinct
import SourceReview.Proofs.Options.Resolve
import SourceReview.Proofs.Rules.OwnIssues
import SourceReview.Proofs.StableSort
import SourceReview.Review.Basic

/-!
# Which rules are asked for

A review with fewer rules reports the same issues, less those of the rules that are left out
(`issues_of_fewer_rules`). The order of the rules and their repetitions have no effect.

An analyzer checks each rule by itself, and what it reports for a rule carries the identifier of
that rule (`Analyzer.ChecksEachRule`). So the issues found before sorting, restricted to one rule, do
not depend on the other rules (`filter_reportedIssues`). Issues that the order of a review does not
tell apart have the same rule, so a stable sort of them is determined by these restrictions.
-/

namespace SourceReview

/-! ### The order of issues -/

namespace Issue

theorem notAfter_iff (a b : Issue) :
    notAfter a b = true ↔ a.line < b.line ∨ (a.line = b.line ∧ a.rule ≤ b.rule) := by
  unfold notAfter
  rw [Bool.or_eq_true, decide_eq_true_iff, Bool.and_eq_true, beq_iff_eq, Bool.not_eq_true',
    decide_eq_false_iff_not, String.not_lt]

theorem notAfter_trans (a b c : Issue) (hab : notAfter a b = true) (hbc : notAfter b c = true) :
    notAfter a c = true := by
  rw [notAfter_iff] at *
  rcases hab with hab | ⟨hab, hrule⟩
  · rcases hbc with hbc | ⟨hbc, -⟩ <;> exact Or.inl (by omega)
  · rcases hbc with hbc | ⟨hbc, hrule'⟩
    · exact Or.inl (by omega)
    · exact Or.inr ⟨hab.trans hbc, String.le_trans hrule hrule'⟩

theorem notAfter_total (a b : Issue) : (notAfter a b || notAfter b a) = true := by
  rw [Bool.or_eq_true, notAfter_iff, notAfter_iff]
  rcases Nat.lt_trichotomy a.line b.line with hlt | heq | hgt
  · exact Or.inl (Or.inl hlt)
  · rcases String.le_total a.rule b.rule with hle | hle
    · exact Or.inl (Or.inr ⟨heq, hle⟩)
    · exact Or.inr (Or.inr ⟨heq.symm, hle⟩)
  · exact Or.inr (Or.inl hgt)

/-- Issues that the order does not tell apart have the same rule. -/
theorem rule_eq_of_tied {a b : Issue} (h : StableSort.tied notAfter a b = true) :
    b.rule = a.rule := by
  simp only [StableSort.tied, Bool.and_eq_true, notAfter_iff] at h
  have hline : a.line = b.line := by omega
  have hab : a.rule ≤ b.rule := (h.1.resolve_left (by omega)).2
  have hba : b.rule ≤ a.rule := (h.2.resolve_left (by omega)).2
  exact String.le_antisymm hba hab

/-- Lists that have the same issues of every rule in the same order are sorted alike. -/
theorem mergeSort_eq_of_filter_rule {xs ys : List Issue}
    (h : ∀ rule, xs.filter (·.rule == rule) = ys.filter (·.rule == rule)) :
    xs.mergeSort notAfter = ys.mergeSort notAfter := by
  apply StableSort.mergeSort_eq_of_filter_tied notAfter_trans notAfter_total
  intro a
  have hties : ∀ zs : List Issue, zs.filter (StableSort.tied notAfter a)
      = (zs.filter (·.rule == a.rule)).filter (StableSort.tied notAfter a) := by
    intro zs
    rw [List.filter_filter]
    apply List.filter_congr
    intro b _
    by_cases htied : StableSort.tied notAfter a b = true
    · simp [htied, rule_eq_of_tied htied]
    · simp [htied]
  rw [hties xs, hties ys, h]

end Issue

/-! ### Rules are checked one by one -/

/-- The analyzer checks one rule after the other, and reports for each issues of that rule only. -/
structure Analyzer.ChecksEachRule (a : Analyzer) : Prop where
  check_eq : ∀ ids text, a.check ids text = ids.flatMap fun id => a.check [id] text
  own : ∀ id text, ∀ i ∈ a.check [id] text, i.rule = id

theorem Language.checksEachRule {l : Language} (h : ∀ rule ∈ l.rules, rule.ReportsOwn) :
    l.analyzer.ChecksEachRule where
  check_eq ids text := by
    show Rule.checkAll l.rules ids _ = ids.flatMap fun id => Rule.checkAll l.rules [id] _
    simp [Rule.checkAll]
  own id text i hi := by
    obtain ⟨rule, hrule, hid, hi⟩ := Rule.exists_of_mem_checkAll hi
    rw [h rule hrule _ i hi]
    exact List.mem_singleton.1 hid

/-- Of issues that are found rule by rule, those of one rule are found under that rule. -/
theorem filter_rule_flatMap {found : String → List Issue} (hown : ∀ id, ∀ i ∈ found id, i.rule = id)
    {ids : List String} (hids : ids.Nodup) (rule : String) :
    (ids.flatMap found).filter (·.rule == rule) = if rule ∈ ids then found rule else [] := by
  induction ids with
  | nil => rfl
  | cons id ids ih =>
    rw [List.nodup_cons] at hids
    rw [List.flatMap_cons, List.filter_append, ih hids.2]
    by_cases hid : rule = id
    · subst hid
      have hall : (found rule).filter (·.rule == rule) = found rule := by
        rw [List.filter_eq_self]
        intro i hi
        simpa using hown rule i hi
      simp [hall, hids.1]
    · have hnone : (found id).filter (·.rule == rule) = [] := by
        rw [List.filter_eq_nil_iff]
        intro i hi
        simpa [hown id i hi] using fun heq => hid heq.symm
      simp [hnone, hid]

/-! ### The issues of a review -/

namespace Review

/-- The issues that are found in a text, before any is left out. -/
def raisedIssues (b : Binding) (options : EffectiveOptions) (text : List Char) : List Issue :=
  let outline := b.analyzer.outline text
  let metrics := b.analyzer.metrics outline options.skipDependencies text
  StructuralRule.allIssues options outline metrics ++ b.analyzer.check options.rules text

/-- The issues of a review in the order in which they are found. -/
def reportedIssues (b : Binding) (options : EffectiveOptions) (text : List Char) : List Issue :=
  let metrics := b.analyzer.metrics (b.analyzer.outline text) options.skipDependencies text
  (raisedIssues b options text).filter (isReported options metrics)

theorem issues_ofResolved (b : Binding) (path : String) (options : EffectiveOptions)
    (text : List Char) : (ofResolved b path options text).issues
      = (reportedIssues b options text).mergeSort Issue.notAfter := rfl

/-- The issues that are found under one rule if it is asked for. -/
def raisedUnder (b : Binding) (options : EffectiveOptions) (text : List Char) (rule : String) :
    List Issue :=
  let outline := b.analyzer.outline text
  let metrics := b.analyzer.metrics outline options.skipDependencies text
  let structural := StructuralRule.all.flatMap fun s =>
    if s.id == rule then s.issues options outline metrics else []
  structural ++ b.analyzer.check [rule] text

/-- The issues that a review reports under one rule if it is asked for. Nothing in it depends on
which rules are asked for. -/
def issuesUnder (b : Binding) (options : EffectiveOptions) (text : List Char) (rule : String) :
    List Issue :=
  let metrics := b.analyzer.metrics (b.analyzer.outline text) options.skipDependencies text
  (raisedUnder b options text rule).filter fun i =>
    i.rule != StructuralRule.highComplexity.id || options.complexity.limit < metrics.complexity.toFloat

theorem rule_of_mem_raisedUnder {b : Binding} (hb : b.analyzer.ChecksEachRule)
    {options : EffectiveOptions} {text : List Char} {rule : String} {i : Issue}
    (hi : i ∈ raisedUnder b options text rule) : i.rule = rule := by
  rcases List.mem_append.1 hi with hi | hi
  · obtain ⟨s, -, hs⟩ := List.mem_flatMap.1 hi
    split at hs
    · rename_i hid
      rw [StructuralRule.rule_of_mem_issues hs]
      simpa using hid
    · exact absurd hs List.not_mem_nil
  · exact hb.own rule text i hi

theorem filter_rule_allIssues (options : EffectiveOptions) (outline : Outline) (m : Metrics)
    (rule : String) :
    (StructuralRule.allIssues options outline m).filter (·.rule == rule)
      = if rule ∈ options.rules then
          StructuralRule.all.flatMap fun s =>
            if s.id == rule then s.issues options outline m else []
        else [] := by
  unfold StructuralRule.allIssues
  rw [List.filter_flatMap]
  -- The structural rules are compared one by one.
  have hone : ∀ s : StructuralRule,
      (if options.isEnabled s.id = true then s.issues options outline m else []).filter
          (·.rule == rule)
        = if rule ∈ options.rules ∧ s.id = rule then s.issues options outline m else [] := by
    intro s
    by_cases hs : s.id = rule
    · have hall : (s.issues options outline m).filter (·.rule == rule)
          = s.issues options outline m := by
        rw [List.filter_eq_self]
        intro i hi
        simp [StructuralRule.rule_of_mem_issues hi, hs]
      by_cases hmem : rule ∈ options.rules
      · simp [EffectiveOptions.isEnabled, hs, hmem, hall]
      · simp [EffectiveOptions.isEnabled, hs, hmem]
    · have hnone : (s.issues options outline m).filter (·.rule == rule) = [] := by
        rw [List.filter_eq_nil_iff]
        intro i hi
        simp [StructuralRule.rule_of_mem_issues hi, hs]
      simp only [hs, and_false, if_false]
      split
      · exact hnone
      · rfl
  simp only [hone]
  by_cases hmem : rule ∈ options.rules
  · simp [hmem]
  · simp [hmem]

/-- The issues of one rule do not depend on the other rules. -/
theorem filter_reportedIssues {b : Binding} (hb : b.analyzer.ChecksEachRule)
    {options : EffectiveOptions} (hrules : options.rules.Nodup) (text : List Char) (rule : String) :
    (reportedIssues b options text).filter (·.rule == rule)
      = if rule ∈ options.rules then issuesUnder b options text rule else [] := by
  have hcheck : (b.analyzer.check options.rules text).filter (·.rule == rule)
      = if rule ∈ options.rules then b.analyzer.check [rule] text else [] := by
    rw [hb.check_eq]
    exact filter_rule_flatMap (fun id i hi => hb.own id text i hi) hrules rule
  have hraised : (raisedIssues b options text).filter (·.rule == rule)
      = if rule ∈ options.rules then raisedUnder b options text rule else [] := by
    unfold raisedIssues raisedUnder
    simp only
    rw [List.filter_append, filter_rule_allIssues, hcheck]
    split <;> rfl
  unfold reportedIssues issuesUnder
  simp only
  rw [StableSort.filter_filter_comm, hraised]
  by_cases hmem : rule ∈ options.rules
  · rw [if_pos hmem, if_pos hmem]
    -- All issues in sight are of the rule, which is asked for.
    apply List.filter_congr
    intro i hi
    have henabled : options.isEnabled i.rule = true := by
      simpa [EffectiveOptions.isEnabled, rule_of_mem_raisedUnder hb hi] using hmem
    simp [isReported, henabled]
  · rw [if_neg hmem, if_neg hmem]
    rfl

/-- A review with fewer rules reports the issues of these rules, in the same order. -/
theorem issues_ofResolved_filter {b : Binding} (hb : b.analyzer.ChecksEachRule) (path : String)
    (options : EffectiveOptions) (text : List Char) {few many : List String} (hfew : few.Nodup)
    (hmany : many.Nodup) (hsub : ∀ rule ∈ few, rule ∈ many) :
    (ofResolved b path { options with rules := few } text).issues
      = (ofResolved b path { options with rules := many } text).issues.filter
          fun i => few.contains i.rule := by
  rw [issues_ofResolved, issues_ofResolved,
    StableSort.filter_mergeSort Issue.notAfter_trans Issue.notAfter_total]
  apply Issue.mergeSort_eq_of_filter_rule
  intro rule
  have hunder : issuesUnder b { options with rules := few } text rule
      = issuesUnder b { options with rules := many } text rule := rfl
  rw [filter_reportedIssues hb hfew, StableSort.filter_filter_comm, filter_reportedIssues hb hmany]
  have hrule : ∀ i ∈ issuesUnder b { options with rules := many } text rule, i.rule = rule :=
    fun i hi => rule_of_mem_raisedUnder hb (List.mem_filter.1 hi).1
  by_cases hmem : rule ∈ few
  · rw [if_pos hmem, if_pos (hsub rule hmem), hunder, eq_comm, List.filter_eq_self]
    intro i hi
    simpa [hrule i hi] using hmem
  · rw [if_neg hmem, eq_comm, List.filter_eq_nil_iff]
    intro i hi
    split at hi
    · simpa [hrule i hi] using hmem
    · exact absurd hi List.not_mem_nil

/-- Every reported issue is of a rule that is asked for. -/
theorem rule_mem_of_mem_issues {b : Binding} {path : String} {options : EffectiveOptions}
    {text : List Char} {i : Issue} (h : i ∈ (ofResolved b path options text).issues) :
    i.rule ∈ options.rules := by
  rw [issues_ofResolved, List.mem_mergeSort] at h
  have hreported := (List.mem_filter.1 h).2
  unfold isReported at hreported
  rw [Bool.and_eq_true] at hreported
  simpa [EffectiveOptions.isEnabled] using hreported.1

end Review

/-- **Rules are independent.** For a known language and valid options, asking for fewer rules gives
the issues of these rules, with the same order, metrics and suggestions; and asking for the same
rules in another order or more than once changes nothing. -/
theorem issues_of_fewer_rules (l : Language) (hl : l ∈ Language.known) (b : Binding)
    (hb : b.analyzer = l.analyzer) (path text : String) (options : Options)
    (hvalid : ∃ resolved,
      EffectiveOptions.resolve options b.defaultRules b.defaultThresholds = .ok resolved)
    (few many : List String) (hsub : ∀ rule ∈ few, rule ∈ many) :
    ∃ r₁ r₂ : Review,
      Review.ofText b path { options with rules := some few } text = .ok r₁ ∧
      Review.ofText b path { options with rules := some many } text = .ok r₂ ∧
      r₁.issues = r₂.issues.filter (fun i => few.contains i.rule) ∧
      r₁.metrics = r₂.metrics ∧ r₁.suggestions = r₂.suggestions ∧
      ((∀ rule ∈ many, rule ∈ few) → r₁ = r₂) := by
  obtain ⟨resolved, hresolved⟩ := hvalid
  have hchecks : b.analyzer.ChecksEachRule := by
    rw [hb]
    exact Language.checksEachRule (Language.known_reportsOwn l hl)
  have hofText : ∀ rules : List String,
      Review.ofText b path { options with rules := some rules } text
        = .ok (Review.ofResolved b path { resolved with rules := rules.eraseDups } text.toList) := by
    intro rules
    unfold Review.ofText
    rw [EffectiveOptions.resolve_rules hresolved]
  have hissues := Review.issues_ofResolved_filter hchecks path resolved text.toList
    (nodup_eraseDups few) (nodup_eraseDups many)
    (by simpa [List.mem_eraseDups] using hsub)
  have hcontains : ∀ i : Issue, few.eraseDups.contains i.rule = few.contains i.rule := by
    intro i
    rw [Bool.eq_iff_iff]
    simp [List.mem_eraseDups]
  simp only [hcontains] at hissues
  refine ⟨_, _, hofText few, hofText many, hissues, rfl, rfl, ?_⟩
  intro hsup
  -- Nothing is filtered out, and the other parts do not look at the rules.
  have hall : (Review.ofResolved b path { resolved with rules := few.eraseDups } text.toList).issues
      = (Review.ofResolved b path { resolved with rules := many.eraseDups } text.toList).issues := by
    rw [hissues, List.filter_eq_self]
    intro i hi
    have hrule := Review.rule_mem_of_mem_issues hi
    rw [List.mem_eraseDups] at hrule
    simpa using hsup i.rule hrule
  exact congrArg (fun issues => { Review.ofResolved b path
    { resolved with rules := many.eraseDups } text.toList with issues }) hall

/-- The statement at a script in which two rules find something, with a repeated rule, an unknown one
and a structural one. -/
theorem issues_of_fewer_rules_script :
    let b : Binding := ⟨"javascript", Language.javascript.analyzer, [], {}⟩
    let few := ["eqeqeq", "eqeqeq", "no-such-rule"]
    let many := ["no-such-rule", "no-var", "high-complexity", "eqeqeq"]
    ∃ r₁ r₂ : Review,
      Review.ofText b "a.js" { rules := some few } "var x = a == b;\n" = .ok r₁ ∧
      Review.ofText b "a.js" { rules := some many } "var x = a == b;\n" = .ok r₂ ∧
      r₁.issues = r₂.issues.filter (fun i => few.contains i.rule) ∧
      r₁.metrics = r₂.metrics ∧ r₁.suggestions = r₂.suggestions ∧
      ((∀ rule ∈ many, rule ∈ few) → r₁ = r₂) :=
  issues_of_fewer_rules Language.javascript (by simp [Language.known]) _ rfl "a.js"
    "var x = a == b;\n" {} ⟨_, rfl⟩ ["eqeqeq", "eqeqeq", "no-such-rule"]
    ["no-such-rule", "no-var", "high-complexity", "eqeqeq"] (by decide)

end SourceReview
