import SourceReview.Proofs.Advice.Matches
import SourceReview.Proofs.Listing.Bounds
import SourceReview.Proofs.Rules.OwnIssues

/-!
# Advice that counts what a rule reports

Some patterns are both the pattern of a rule and the pattern of a piece of advice. The rule makes an
issue of each match, the advice counts the matches and keeps the line of the first, in a pass of its
own. The two agree (`matchLines_eq_map_line`, `countMatches_eq`); so the suggestion is made just if
the rule reports enough issues, it stands at the line of the first of them, and it says how many
there are (`advice_counts_issues`). A suggestion is known by what its description ends with, and no
two suggestions of a language end alike.
-/

namespace SourceReview

/-- Whether a suggestion is on a subject, which its description ends with. -/
def Suggestion.isOn (s : Suggestion) (subject : String) : Bool :=
  Text.endsWith s.description.toList subject.toList

/-- The suggestions on a subject count issues: there is one if there are at least `least` issues and
none otherwise, it stands at the line of the first issue, and its description gives their number. -/
structure CountsIssues (subject : String) (least : Nat) (suggestions : List Suggestion)
    (issues : List Issue) : Prop where
  length_filter :
    (suggestions.filter (·.isOn subject)).length = if least ≤ issues.length then 1 else 0
  line_eq : ∀ s ∈ suggestions, s.isOn subject = true → some s.line = issues.head?.map (·.line)
  description_eq : ∀ s ∈ suggestions, s.isOn subject = true →
    s.description = toString issues.length ++ subject

/-! ### Endings of descriptions -/

theorem Suggestion.isOn_iff {s : Suggestion} {subject : String} :
    s.isOn subject = true ↔ subject.toList <:+ s.description.toList :=
  Text.endsWith_iff

theorem Suggestion.isOn_of_eq_append {s : Suggestion} {head subject : String}
    (h : s.description = head ++ subject) : s.isOn subject = true := by
  rw [isOn_iff, h, String.toList_append]
  exact List.suffix_append _ _

/-- Whether neither of two texts ends with the other. -/
def endApart (s t : String) : Bool :=
  !Text.endsWith s.toList t.toList && !Text.endsWith t.toList s.toList

/-- A suggestion is on one of two subjects at most that end apart. -/
theorem Suggestion.isOn_eq_false {s : Suggestion} {subject other : String}
    (hapart : endApart subject other = true) (h : s.isOn other = true) :
    s.isOn subject = false := by
  unfold endApart at hapart
  rw [Bool.and_eq_true, Bool.not_eq_true', Bool.not_eq_true'] at hapart
  apply Bool.eq_false_iff.2
  intro hsubject
  rcases List.suffix_or_suffix_of_suffix (isOn_iff.1 hsubject) (isOn_iff.1 h) with hends | hends
  · exact Bool.false_ne_true (hapart.2.symm.trans (Text.endsWith_iff.2 hends))
  · exact Bool.false_ne_true (hapart.1.symm.trans (Text.endsWith_iff.2 hends))

namespace Advice

/-- The advice makes no suggestion on a subject. -/
def Avoids (a : Advice) (subject : String) : Prop :=
  ∀ lines s, a lines = some s → s.isOn subject = false

theorem avoids_ofLines {least : Nat} {numbers : List SourceLine → List Nat}
    {propose : Nat → Proposal} {other subject : String}
    (hpropose : ∀ n, ∃ head, (propose n).description = head ++ other)
    (hapart : endApart subject other = true) :
    Avoids (fun lines => ofLines least (numbers lines) propose) subject := by
  intro lines s hs
  dsimp only [ofLines] at hs
  split at hs
  · obtain ⟨number, -, rfl⟩ := Option.map_eq_some_iff.1 hs
    obtain ⟨head, hdescription⟩ := hpropose (numbers lines).length
    exact Suggestion.isOn_eq_false hapart (Suggestion.isOn_of_eq_append hdescription)
  · cases hs

theorem exists_count_of_ofPattern {pattern : Pattern} {least : Nat} {propose : Nat → Proposal}
    {lines : List SourceLine} {s : Suggestion}
    (h : ofPattern pattern least propose lines = some s) :
    ∃ n, s.description = (propose n).description := by
  dsimp only [ofPattern] at h
  split at h
  · cases h
    exact ⟨_, rfl⟩
  · cases h

theorem avoids_ofPattern (pattern : Pattern) (least : Nat) {propose : Nat → Proposal}
    {other subject : String} (hpropose : ∀ n, (propose n).description = toString n ++ other)
    (hapart : endApart subject other = true) :
    Avoids (ofPattern pattern least propose) subject := by
  intro lines s hs
  obtain ⟨n, hdescription⟩ := exists_count_of_ofPattern hs
  exact Suggestion.isOn_eq_false hapart
    (Suggestion.isOn_of_eq_append (hdescription.trans (hpropose n)))

theorem filter_filterMap_of_avoids {advice : List Advice} {subject : String}
    (h : ∀ a ∈ advice, a.Avoids subject) (lines : List SourceLine) :
    (advice.filterMap (· lines)).filter (·.isOn subject) = [] := by
  rw [List.filter_eq_nil_iff]
  intro s hs
  obtain ⟨a, ha, hs⟩ := List.mem_filterMap.1 hs
  exact Bool.eq_false_iff.1 (h a ha lines s hs)

/-- The ends of what is said about long functions, comments and complexity. -/
def commonEndings : List String :=
  ["extract cohesive steps into helper functions",
    "% of lines are comments; document public functions and non-obvious logic",
    "replace nested conditionals with early returns or lookup tables"]

theorem exists_ending_of_onLength {f : FunctionEntry} {s : Suggestion}
    (h : onLength f = some s) : ∃ other ∈ commonEndings, s.isOn other = true := by
  unfold onLength at h
  split at h
  · cases h
  · cases h
    exact ⟨_, List.mem_cons_self, Suggestion.isOn_of_eq_append rfl⟩

theorem exists_ending_of_onComments {wanted : Float} {m : Metrics} {s : Suggestion}
    (h : onComments wanted m = some s) : ∃ other ∈ commonEndings, s.isOn other = true := by
  unfold onComments at h
  split at h
  · cases h
  · cases h
    exact ⟨_, List.mem_cons_of_mem _ List.mem_cons_self, Suggestion.isOn_of_eq_append rfl⟩

theorem exists_ending_of_onComplexity {limit : UInt32} {m : Metrics} {s : Suggestion}
    (h : onComplexity limit m = some s) : ∃ other ∈ commonEndings, s.isOn other = true := by
  unfold onComplexity at h
  split at h
  · cases h
  · cases h
    exact ⟨_, List.mem_cons_of_mem _ (List.mem_cons_of_mem _ List.mem_cons_self),
      Suggestion.isOn_of_eq_append rfl⟩

end Advice

/-- The suggestions of a language on the subject of a piece of advice are those that this piece
makes, if all others are on something else. -/
theorem Language.filter_advise {l : Language} {k : Nat} {a : Advice} {subject : String}
    (hk : l.advice[k]? = some a) (ha : ∀ lines s, a lines = some s → s.isOn subject = true)
    (hothers : ∀ b ∈ l.advice.eraseIdx k, b.Avoids subject)
    (hcommon : Advice.commonEndings.all (endApart subject) = true) (m : Metrics)
    (text : List Char) :
    (l.advise m text).filter (·.isOn subject) = (a (listing l.comments text)).toList := by
  have hnone : ∀ suggestions : List Suggestion,
      (∀ s ∈ suggestions, ∃ other ∈ Advice.commonEndings, s.isOn other = true) →
        suggestions.filter (·.isOn subject) = [] := by
    intro suggestions h
    rw [List.filter_eq_nil_iff]
    intro s hs
    obtain ⟨other, hother, hon⟩ := h s hs
    exact Bool.eq_false_iff.1 (Suggestion.isOn_eq_false (List.all_eq_true.1 hcommon _ hother) hon)
  have hself : (a (listing l.comments text)).toList.filter (·.isOn subject)
      = (a (listing l.comments text)).toList := by
    rw [List.filter_eq_self]
    intro s hs
    exact ha _ s (Option.mem_toList.1 hs)
  obtain ⟨hlt, hget⟩ := List.getElem?_eq_some_iff.1 hk
  have hadvice : l.advice = l.advice.take k ++ a :: l.advice.drop (k + 1) := by
    rw [← hget, ← List.drop_eq_getElem_cons hlt, List.take_append_drop]
  rw [List.eraseIdx_eq_take_drop_succ, List.forall_mem_append] at hothers
  have hcons : ∀ rest, (a :: rest).filterMap (· (listing l.comments text))
      = (a (listing l.comments text)).toList ++ rest.filterMap (· (listing l.comments text)) := by
    intro rest
    rw [List.filterMap_cons]
    cases a (listing l.comments text) <;> rfl
  unfold advise
  simp only [List.filter_append]
  rw [hadvice, List.filterMap_append, hcons, List.filter_append, List.filter_append, hself,
    Advice.filter_filterMap_of_avoids hothers.1, Advice.filter_filterMap_of_avoids hothers.2,
    hnone (Advice.onLongFunctions _), hnone (Advice.onComments _ m).toList,
    hnone (Advice.onComplexity _ m).toList]
  · simp
  · exact fun s hs => Advice.exists_ending_of_onComplexity (Option.mem_toList.1 hs)
  · exact fun s hs => Advice.exists_ending_of_onComments (Option.mem_toList.1 hs)
  · intro s hs
    obtain ⟨f, -, hf⟩ := List.mem_filterMap.1 hs
    exact Advice.exists_ending_of_onLength hf

/-! ### Matches of a pattern and issues of its rule -/

/-- The rule makes an issue of each match of a pattern in the code. -/
def Rule.ReportsMatches (rule : Rule) (pattern : Pattern) : Prop :=
  ∀ lines, Advice.matchLines pattern lines = (rule.check lines).map (·.line)

/-- The lines in which a pattern matches are those of the issues made of its matches. -/
theorem Advice.matchLines_eq_map_line (rule : String) (pattern : Pattern)
    (verdict : SourceLine → List Char → Verdict) (lines : List SourceLine) :
    matchLines pattern lines
      = (Rule.patternIssues rule pattern (fun l found => some (verdict l found)) lines).map
          (·.line) := by
  unfold matchLines Rule.patternIssues
  rw [List.map_flatMap]
  congr 1
  funext l
  rw [List.map_filterMap]
  simp [Pattern.count, Rule.issue, List.map_const']

theorem Rule.reportsMatches_ofPattern (id description : String) (pattern : Pattern)
    (verdict : Verdict) : (ofPattern id description pattern verdict).ReportsMatches pattern :=
  Advice.matchLines_eq_map_line id pattern fun _ _ => verdict

theorem Rule.reportsMatches_ofMatch (id description : String) (pattern : Pattern)
    (verdict : String → Verdict) :
    (ofMatch id description pattern verdict).ReportsMatches pattern :=
  Advice.matchLines_eq_map_line id pattern fun _ found => verdict (String.ofList found)

/-- Where the lines are those of issues, the proposal is on their number and stands at the first of
them. -/
theorem Advice.ofLines_map_line (least : Nat) (issues : List Issue) (propose : Nat → Proposal) :
    ofLines least (issues.map (·.line)) propose
      = if least ≤ issues.length then
          issues.head?.map fun first => (propose issues.length).at first.line
        else none := by
  rw [ofLines, List.length_map, List.head?_map, Option.map_map]
  rfl

/-- Advice on a pattern counts the issues of a rule with the same pattern. -/
theorem Language.countsIssues {l : Language} {k : Nat} {pattern : Pattern} {least : Nat}
    {propose : Nat → Proposal} {subject id : String} {rule : Rule}
    (hk : l.advice[k]? = some (.ofPattern pattern least propose))
    (hpropose : ∀ n, (propose n).description = toString n ++ subject)
    (hothers : ∀ b ∈ l.advice.eraseIdx k, b.Avoids subject)
    (hcommon : Advice.commonEndings.all (endApart subject) = true)
    (hrule : l.rules.find? (·.id == id) = some rule)
    (hmatches : rule.ReportsMatches pattern) (hleast : 0 < least) (m : Metrics) (text : List Char) :
    CountsIssues subject least (l.analyzer.advise m text) (l.analyzer.check [id] text) := by
  have hmade : (l.advise m text).filter (·.isOn subject)
      = (Advice.ofLines least ((l.analyzer.check [id] text).map (·.line)) propose).toList := by
    rw [check_singleton hrule, ← hmatches,
      ← Advice.ofPattern_eq_ofLines pattern hleast propose fun _ => number_pos_of_mem_listing]
    apply filter_advise hk _ hothers hcommon
    intro lines s hs
    obtain ⟨n, hdescription⟩ := Advice.exists_count_of_ofPattern hs
    exact Suggestion.isOn_of_eq_append (hdescription.trans (hpropose n))
  rw [Advice.ofLines_map_line] at hmade
  have hs : ∀ s ∈ l.advise m text, s.isOn subject = true →
      ∃ first, (l.analyzer.check [id] text).head? = some first ∧
        (propose (l.analyzer.check [id] text).length).at first.line = s := by
    intro s hs hon
    have hmem : s ∈ (l.advise m text).filter (·.isOn subject) := List.mem_filter.2 ⟨hs, hon⟩
    rw [hmade, Option.mem_toList] at hmem
    split at hmem
    · exact Option.map_eq_some_iff.1 hmem
    · cases hmem
  refine ⟨?_, ?_, ?_⟩
  · -- Without issues there is no first line, but then there are too few of them as well.
    show ((l.advise m text).filter (·.isOn subject)).length = _
    rw [hmade]
    cases l.analyzer.check [id] text with
    | nil => simp [Nat.not_le_of_lt hleast]
    | cons first rest => split <;> rfl
  · intro s hmem hon
    obtain ⟨first, hfirst, rfl⟩ := hs s hmem hon
    rw [hfirst]
    rfl
  · intro s hmem hon
    obtain ⟨first, -, rfl⟩ := hs s hmem hon
    exact hpropose _

/-! ### The languages -/

namespace Script

theorem advice_avoids_var :
    ∀ a ∈ advice.eraseIdx 2, a.Avoids " var declarations; replace with let or const" := by
  simp only [advice, List.eraseIdx_cons_succ, List.eraseIdx_cons_zero, List.forall_mem_cons,
    List.not_mem_nil, false_implies, implies_true, and_true]
  exact ⟨Advice.avoids_ofPattern _ _ (fun _ => rfl) (by decide),
    Advice.avoids_ofPattern _ _ (fun _ => rfl) (by decide),
    Advice.avoids_ofPattern _ _ (fun _ => rfl) (by decide)⟩

theorem typedAdvice_avoids_var :
    ∀ a ∈ typedAdvice.eraseIdx 2, a.Avoids " var declarations; replace with let or const" := by
  have herase : typedAdvice.eraseIdx 2 = advice.eraseIdx 2 ++ typedAdvice.drop 4 := rfl
  rw [herase, List.forall_mem_append]
  refine ⟨advice_avoids_var, ?_⟩
  simp only [typedAdvice, advice, List.cons_append, List.nil_append, List.drop_succ_cons,
    List.drop_zero, List.forall_mem_singleton]
  exact Advice.avoids_ofPattern _ _ (fun _ => rfl) (by decide)

theorem typedAdvice_avoids_any :
    ∀ a ∈ typedAdvice.eraseIdx 4,
      a.Avoids " explicit any types; introduce interfaces or generics" := by
  have herase : typedAdvice.eraseIdx 4 = advice := rfl
  rw [herase]
  simp only [advice, List.forall_mem_cons, List.not_mem_nil, false_implies, implies_true, and_true]
  exact ⟨Advice.avoids_ofPattern _ _ (fun _ => rfl) (by decide),
    Advice.avoids_ofPattern _ _ (fun _ => rfl) (by decide),
    Advice.avoids_ofPattern _ _ (fun _ => rfl) (by decide),
    Advice.avoids_ofPattern _ _ (fun _ => rfl) (by decide)⟩

end Script

theorem Php.advice_avoids_mysql :
    ∀ a ∈ advice.eraseIdx 1, a.Avoids " mysql_* calls; migrate data access to PDO" := by
  simp only [advice, List.eraseIdx_cons_succ, List.eraseIdx_cons_zero, List.forall_mem_cons,
    List.not_mem_nil, false_implies, implies_true, and_true]
  exact ⟨Advice.avoids_ofPattern _ _ (fun _ => rfl) (by decide),
    Advice.avoids_ofLines (fun _ => ⟨_, rfl⟩) (by decide)⟩

/-- **Rules and suggestions agree on what they count.** Variables and explicit types of any value
count from three issues on, calls of removed database functions from one on. -/
theorem advice_counts_issues (m : Metrics) (text : List Char) :
    CountsIssues " var declarations; replace with let or const" 3
      (Language.javascript.analyzer.advise m text)
      (Language.javascript.analyzer.check ["no-var"] text) ∧
    CountsIssues " var declarations; replace with let or const" 3
      (Language.typescript.analyzer.advise m text)
      (Language.typescript.analyzer.check ["no-var"] text) ∧
    CountsIssues " explicit any types; introduce interfaces or generics" 3
      (Language.typescript.analyzer.advise m text)
      (Language.typescript.analyzer.check ["no-explicit-any"] text) ∧
    CountsIssues " mysql_* calls; migrate data access to PDO" 1
      (Language.php.analyzer.advise m text)
      (Language.php.analyzer.check ["deprecated-mysql"] text) := by
  refine ⟨?_, ?_, ?_, ?_⟩
  · exact Language.countsIssues (l := Language.javascript) (k := 2) rfl (fun _ => rfl)
      Script.advice_avoids_var (by decide) rfl (Rule.reportsMatches_ofPattern _ _ _ _) (by decide) m
      text
  · exact Language.countsIssues (l := Language.typescript) (k := 2) rfl (fun _ => rfl)
      Script.typedAdvice_avoids_var (by decide) rfl (Rule.reportsMatches_ofPattern _ _ _ _)
      (by decide) m text
  · exact Language.countsIssues (l := Language.typescript) (k := 4) rfl (fun _ => rfl)
      Script.typedAdvice_avoids_any (by decide) rfl (Rule.reportsMatches_ofPattern _ _ _ _)
      (by decide) m text
  · exact Language.countsIssues (l := Language.php) (k := 1) rfl (fun _ => rfl)
      Php.advice_avoids_mysql (by decide) rfl (Rule.reportsMatches_ofMatch _ _ _ _) (by decide) m
      text

end SourceReview
