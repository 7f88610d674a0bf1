import SourceReview.Language.Known

/-!
# Rules report their own issues

Every issue that a rule reports carries the identifier of the rule (`Rule.ReportsOwn`). It holds of
the three ways in which most rules are made, and of each rule that is made by itself; so it holds of
all rules of the known languages (`known_reportsOwn`). The structural rules have it too
(`StructuralRule.rule_of_mem_issues`).
-/

namespace SourceReview

namespace Rule

/-- Every issue that the rule reports is one of its own. -/
def ReportsOwn (rule : Rule) : Prop := ∀ lines, ∀ i ∈ rule.check lines, i.rule = rule.id

/-! ### Ways of making rules -/

theorem rule_of_mem_patternIssues {id : String} {pattern : Pattern}
    {verdict : SourceLine → List Char → Option Verdict} {lines : List SourceLine} {i : Issue}
    (h : i ∈ patternIssues id pattern verdict lines) : i.rule = id := by
  unfold patternIssues at h
  rw [List.mem_flatMap] at h
  obtain ⟨l, -, hl⟩ := h
  rw [List.mem_filterMap] at hl
  obtain ⟨m, -, hm⟩ := hl
  obtain ⟨v, -, rfl⟩ := Option.map_eq_some_iff.1 hm
  rfl

theorem reportsOwn_ofPattern (id description : String) (pattern : Pattern) (verdict : Verdict) :
    (ofPattern id description pattern verdict).ReportsOwn := by
  intro lines i h
  show i.rule = id
  dsimp only [ofPattern] at h
  exact rule_of_mem_patternIssues h

theorem reportsOwn_ofMatch (id description : String) (pattern : Pattern)
    (verdict : String → Verdict) : (ofMatch id description pattern verdict).ReportsOwn := by
  intro lines i h
  show i.rule = id
  dsimp only [ofMatch] at h
  exact rule_of_mem_patternIssues h

theorem reportsOwn_lineLength (id description : String) (limit : Nat) :
    (lineLength id description limit).ReportsOwn := by
  intro lines i h
  unfold lineLength at h
  rw [List.mem_map] at h
  obtain ⟨l, -, rfl⟩ := h
  rfl

/-- An issue of a pack is found by one of the rules asked for. -/
theorem exists_of_mem_checkAll {pack : List Rule} {ids : List String} {lines : List SourceLine}
    {i : Issue} (h : i ∈ checkAll pack ids lines) :
    ∃ rule ∈ pack, rule.id ∈ ids ∧ i ∈ rule.check lines := by
  obtain ⟨id, hid, hi⟩ := List.mem_flatMap.1 h
  split at hi
  · rename_i rule hfind
    have heq : rule.id = id := by simpa using List.find?_some hfind
    exact ⟨rule, List.mem_of_find?_eq_some hfind, heq ▸ hid, hi⟩
  · exact absurd hi List.not_mem_nil

/-- A rule that looks at each line of code by itself reports its own issues if it does so in every
line. -/
theorem rule_of_mem_filterMap {id : String} {f : SourceLine → Option Issue}
    (hf : ∀ l i, f l = some i → i.rule = id) {lines : List SourceLine} {i : Issue}
    (h : i ∈ lines.filterMap f) : i.rule = id := by
  rw [List.mem_filterMap] at h
  obtain ⟨l, -, hl⟩ := h
  exact hf l i hl

end Rule

/-! ### The rules of each language -/

namespace Python

theorem rule_of_namingIssue? (l : SourceLine) (i : Issue) (h : namingIssue? l = some i) :
    i.rule = "naming-convention" := by
  unfold namingIssue? at h
  split at h
  · simp only at h
    split at h
    · cases h
      rfl
    · cases h
  · split at h
    · simp only at h
      split at h
      · cases h
      · cases h
        rfl
    · cases h

theorem rule_of_mutableDefaultIssue? (l : SourceLine) (i : Issue)
    (h : mutableDefaultIssue? l = some i) : i.rule = "mutable-default-arg" := by
  unfold mutableDefaultIssue? at h
  split at h
  · cases h
    rfl
  · cases h

theorem rules_reportOwn : ∀ rule ∈ rules, rule.ReportsOwn := by
  unfold rules
  simp only [List.forall_mem_cons, List.not_mem_nil, false_implies, implies_true, and_true]
  refine ⟨Rule.reportsOwn_lineLength _ _ _, ?_, Rule.reportsOwn_ofPattern _ _ _ _, ?_,
    Rule.reportsOwn_ofPattern _ _ _ _, Rule.reportsOwn_ofPattern _ _ _ _,
    Rule.reportsOwn_ofMatch _ _ _ _, Rule.reportsOwn_ofPattern _ _ _ _⟩
  · exact fun lines i h => Rule.rule_of_mem_filterMap rule_of_namingIssue? h
  · exact fun lines i h => Rule.rule_of_mem_filterMap rule_of_mutableDefaultIssue? h

end Python

namespace Script

theorem rule_of_mem_looseEqualityIssues {l : SourceLine} {i : Issue}
    (h : i ∈ looseEqualityIssues l) : i.rule = "eqeqeq" := by
  unfold looseEqualityIssues at h
  rw [List.mem_map] at h
  obtain ⟨m, -, rfl⟩ := h
  rfl

theorem rule_of_mem_nonNullIssues {l : SourceLine} {i : Issue} (h : i ∈ nonNullIssues l) :
    i.rule = "no-non-null-assertion" := by
  unfold nonNullIssues at h
  rw [List.mem_map] at h
  obtain ⟨m, -, rfl⟩ := h
  rfl

theorem rules_reportOwn : ∀ rule ∈ rules, rule.ReportsOwn := by
  unfold rules
  simp only [List.forall_mem_cons, List.not_mem_nil, false_implies, implies_true, and_true]
  refine ⟨Rule.reportsOwn_ofPattern _ _ _ _, ?_, Rule.reportsOwn_ofMatch _ _ _ _,
    Rule.reportsOwn_ofPattern _ _ _ _, Rule.reportsOwn_ofPattern _ _ _ _,
    Rule.reportsOwn_lineLength _ _ _⟩
  intro lines i h
  obtain ⟨l, -, hl⟩ := List.mem_flatMap.1 h
  exact rule_of_mem_looseEqualityIssues hl

theorem typedRules_reportOwn : ∀ rule ∈ typedRules, rule.ReportsOwn := by
  unfold typedRules
  simp only [List.forall_mem_append, List.forall_mem_cons, List.not_mem_nil, false_implies,
    implies_true, and_true]
  refine ⟨rules_reportOwn, Rule.reportsOwn_ofPattern _ _ _ _, ?_⟩
  intro lines i h
  obtain ⟨l, -, hl⟩ := List.mem_flatMap.1 h
  exact rule_of_mem_nonNullIssues hl

end Script

namespace Java

theorem rule_of_mem_namingIssues {types : List (List Char)} {lines : List SourceLine} {i : Issue}
    (h : i ∈ namingIssues types lines) : i.rule = "naming-convention" := by
  induction lines generalizing types with
  | nil => exact absurd h List.not_mem_nil
  | cons line lines ih =>
    unfold namingIssues at h
    split at h
    · simp only at h
      split at h
      · exact ih h
      · rcases List.mem_cons.1 h with rfl | h
        · rfl
        · exact ih h
    · split at h
      · split at h
        · exact ih h
        · rcases List.mem_cons.1 h with rfl | h
          · rfl
          · exact ih h
      · exact ih h

theorem rule_of_mem_emptyCatchIssues {lines : List SourceLine} {i : Issue}
    (h : i ∈ emptyCatchIssues lines) : i.rule = "empty-catch" := by
  induction lines with
  | nil => exact absurd h List.not_mem_nil
  | cons line lines ih =>
    unfold emptyCatchIssues at h
    simp only at h
    split at h
    · rcases List.mem_cons.1 h with rfl | h
      · rfl
      · exact ih h
    · exact ih h

theorem rule_of_mem_genericExceptionIssues {lines : List SourceLine} {i : Issue}
    (h : i ∈ genericExceptionIssues lines) : i.rule = "generic-exception" := by
  unfold genericExceptionIssues at h
  rcases List.mem_append.1 h with h | h
  · exact Rule.rule_of_mem_patternIssues h
  · exact Rule.rule_of_mem_patternIssues h

theorem rules_reportOwn : ∀ rule ∈ rules, rule.ReportsOwn := by
  unfold rules
  simp only [List.forall_mem_cons, List.not_mem_nil, false_implies, implies_true, and_true]
  refine ⟨?_, ?_, Rule.reportsOwn_ofPattern _ _ _ _, ?_, Rule.reportsOwn_ofPattern _ _ _ _,
    Rule.reportsOwn_ofMatch _ _ _ _, Rule.reportsOwn_lineLength _ _ _⟩
  · exact fun lines i h => rule_of_mem_namingIssues h
  · exact fun lines i h => rule_of_mem_emptyCatchIssues h
  · exact fun lines i h => rule_of_mem_genericExceptionIssues h

end Java

namespace Php

theorem rule_of_injectionIssue? (l : SourceLine) (i : Issue) (h : injectionIssue? l = some i) :
    i.rule = "sql-injection" := by
  unfold injectionIssue? at h
  split at h
  · cases h
    rfl
  · cases h

theorem rule_of_shortTagIssue? (l : SourceLine) (i : Issue) (h : shortTagIssue? l = some i) :
    i.rule = "short-open-tag" := by
  unfold shortTagIssue? at h
  obtain ⟨m, -, rfl⟩ := Option.map_eq_some_iff.1 h
  rfl

theorem rules_reportOwn : ∀ rule ∈ rules, rule.ReportsOwn := by
  unfold rules
  simp only [List.forall_mem_cons, List.not_mem_nil, false_implies, implies_true, and_true]
  refine ⟨?_, ?_, Rule.reportsOwn_ofMatch _ _ _ _, Rule.reportsOwn_ofMatch _ _ _ _,
    Rule.reportsOwn_ofPattern _ _ _ _, ?_, Rule.reportsOwn_ofMatch _ _ _ _⟩
  · exact fun lines i h => Rule.rule_of_mem_filterMap rule_of_injectionIssue? h
  · intro lines i h
    dsimp only at h ⊢
    exact Rule.rule_of_mem_patternIssues h
  · exact fun lines i h => Rule.rule_of_mem_filterMap rule_of_shortTagIssue? h

end Php

namespace Go

theorem rule_of_mem_exportedDocIssues {documented : Bool} {lines : List SourceLine} {i : Issue}
    (h : i ∈ exportedDocIssues documented lines) : i.rule = "exported-doc" := by
  induction lines generalizing documented with
  | nil => exact absurd h List.not_mem_nil
  | cons line lines ih =>
    unfold exportedDocIssues at h
    simp only at h
    split at h
    · exact ih h
    · split at h
      · split at h
        · rcases List.mem_cons.1 h with rfl | h
          · rfl
          · exact ih h
        · exact ih h
      · exact ih h

theorem rule_of_namingIssue? (l : SourceLine) (i : Issue) (h : namingIssue? l = some i) :
    i.rule = "naming-convention" := by
  unfold namingIssue? at h
  split at h
  · split at h
    · cases h
    · cases h
      rfl
  · cases h

theorem rules_reportOwn : ∀ rule ∈ rules, rule.ReportsOwn := by
  unfold rules
  simp only [List.forall_mem_cons, List.not_mem_nil, false_implies, implies_true, and_true]
  refine ⟨Rule.reportsOwn_ofPattern _ _ _ _, ?_, Rule.reportsOwn_ofPattern _ _ _ _, ?_, ?_⟩
  · intro lines i h
    dsimp only at h ⊢
    exact Rule.rule_of_mem_patternIssues h
  · exact fun lines i h => rule_of_mem_exportedDocIssues h
  · exact fun lines i h => Rule.rule_of_mem_filterMap rule_of_namingIssue? h

end Go

namespace Language

/-- Every rule of a known language reports its own issues. -/
theorem known_reportsOwn : ∀ l ∈ known, ∀ rule ∈ l.rules, rule.ReportsOwn := by
  unfold known
  simp only [List.forall_mem_cons, List.not_mem_nil, false_implies, implies_true, and_true]
  exact ⟨Python.rules_reportOwn, Script.rules_reportOwn, Script.typedRules_reportOwn,
    Java.rules_reportOwn, Php.rules_reportOwn, Go.rules_reportOwn⟩

/-- A rule that is asked for alone is the only one that is checked. -/
theorem check_singleton {l : Language} {id : String} {rule : Rule}
    (h : l.rules.find? (·.id == id) = some rule) (text : List Char) :
    l.analyzer.check [id] text = rule.check (listing l.comments text) := by
  show Rule.checkAll l.rules [id] _ = _
  rw [Rule.checkAll, List.flatMap_singleton, h]

/-- An issue is found as well if nothing but its own rule is asked for. -/
theorem mem_check_own {l : Language} (hl : ∀ rule ∈ l.rules, rule.ReportsOwn) {ids : List String}
    {text : List Char} {i : Issue} (h : i ∈ l.analyzer.check ids text) :
    i ∈ l.analyzer.check [i.rule] text := by
  obtain ⟨id, -, hi⟩ := List.mem_flatMap.1 h
  split at hi
  · rename_i rule hfind
    have hid : rule.id = id := by simpa using List.find?_some hfind
    have hrule : i.rule = id := (hl rule (List.mem_of_find?_eq_some hfind) _ i hi).trans hid
    rw [hrule, check_singleton hfind]
    exact hi
  · exact absurd hi List.not_mem_nil

/-- No rule of a known language is named like a structural rule. -/
theorem known_id_ne_structural :
    ∀ l ∈ known, ∀ rule ∈ l.rules, ∀ s : StructuralRule, rule.id ≠ s.id := by
  have hids : ∀ l ∈ known, ∀ rule ∈ l.rules, rule.id ∉ StructuralRule.ids := by decide
  intro l hl rule hrule s hid
  apply hids l hl rule hrule
  rw [hid]
  cases s <;> decide

end Language

namespace StructuralRule

/-- Every issue that a structural rule raises is one of its own. -/
theorem rule_of_mem_issues {options : EffectiveOptions} {outline : Outline} {m : Metrics}
    {rule : StructuralRule} {i : Issue} (h : i ∈ rule.issues options outline m) :
    i.rule = rule.id := by
  cases rule with
  | highComplexity =>
    obtain ⟨f, -, hf⟩ := List.mem_filterMap.1 h
    unfold complexityIssue? at hf
    simp only at hf
    split at hf
    · cases hf
    · cases hf
      rfl
  | largeClass =>
    obtain ⟨c, -, hc⟩ := List.mem_filterMap.1 h
    unfold classIssue? at hc
    split at hc
    · cases hc
      rfl
    · cases hc
  | lowMaintainability =>
    have hm := Option.mem_toList.1 h
    unfold maintainabilityIssue? at hm
    split at hm
    · cases hm
      rfl
    · cases hm

end StructuralRule

end SourceReview
