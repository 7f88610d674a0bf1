import SourceReview.Language.Known
import SourceReview.Proofs.Pattern.Runs

/-!
# Where rules find issues

Every issue that a rule finds in a listing stands in one of its lines, and the column of the issue,
if it has one, is a column of the raw line (`Language.known_locates`). Columns come from matches in
the code of a line, which is not longer than the line; from the operator inside such a match, or
from the character after its first; and, for two rules, from the raw line itself. A match can only
be counted on to begin inside the line if its pattern asks for a character (`Pattern.minLength`),
which is computed for every pattern that a rule reports.
-/

namespace SourceReview

/-- The issue stands in the line `l`, and its column is one of the raw line. -/
structure Issue.StandsAt (l : SourceLine) (i : Issue) : Prop where
  line_eq : i.line = l.number
  column_mem : ∀ c, i.column = some c → 1 ≤ c ∧ c ≤ l.raw.length

/-- Every issue stands in one of the lines. -/
def Located (lines : List SourceLine) (issues : List Issue) : Prop :=
  ∀ i ∈ issues, ∃ l ∈ lines, i.StandsAt l

namespace Located

variable {lines : List SourceLine} {issues : List Issue}

theorem of_subset {few : List SourceLine} (h : Located few issues) (hsub : few ⊆ lines) :
    Located lines issues := by
  intro i hi
  obtain ⟨l, hl, hstands⟩ := h i hi
  exact ⟨l, hsub hl, hstands⟩

theorem append {more : List Issue} (h : Located lines issues) (hmore : Located lines more) :
    Located lines (issues ++ more) := by
  intro i hi
  rcases List.mem_append.1 hi with hi | hi
  · exact h i hi
  · exact hmore i hi

/-- What a line adds in front of the issues of the lines after it. -/
theorem cons_of_standsAt {line : SourceLine} {i : Issue} (hi : i.StandsAt line)
    (h : Located lines issues) : Located (line :: lines) (i :: issues) := by
  intro j hj
  rcases List.mem_cons.1 hj with rfl | hj
  · exact ⟨line, List.mem_cons_self, hi⟩
  · obtain ⟨l, hl, hstands⟩ := h j hj
    exact ⟨l, List.mem_cons_of_mem _ hl, hstands⟩

theorem cons_line (line : SourceLine) (h : Located lines issues) :
    Located (line :: lines) issues :=
  h.of_subset (List.subset_cons_self _ _)

end Located

/-- The code of no line is longer than the line. -/
def CodeFits (lines : List SourceLine) : Prop := ∀ l ∈ lines, l.code.length ≤ l.raw.length

theorem codeLines_subset (lines : List SourceLine) : codeLines lines ⊆ lines :=
  List.filter_sublist.subset

namespace Rule

/-- Every issue that the rule finds in lines stands in one of them. -/
def Locates (rule : Rule) : Prop := ∀ lines, CodeFits lines → Located lines (rule.check lines)

/-! ### Ways of making rules -/

theorem standsAt_issue (rule : String) (l : SourceLine) (v : Verdict) :
    (issue rule l.number none v).StandsAt l :=
  ⟨rfl, fun _ hc => by cases hc⟩

theorem standsAt_issue_column (rule : String) {l : SourceLine} {position : Nat}
    (h : position < l.raw.length) (v : Verdict) :
    (issue rule l.number (some (position + 1)) v).StandsAt l := by
  refine ⟨rfl, ?_⟩
  intro c hc
  have hcolumn : position + 1 = c := Option.some.inj hc
  omega

/-- A rule that looks at each line by itself. -/
theorem located_flatMap {found : SourceLine → List Issue} {lines : List SourceLine}
    (hfound : ∀ l ∈ lines, ∀ i ∈ found l, i.StandsAt l) : Located lines (lines.flatMap found) := by
  intro i hi
  obtain ⟨l, hl, hil⟩ := List.mem_flatMap.1 hi
  exact ⟨l, hl, hfound l hl i hil⟩

theorem located_filterMap {found : SourceLine → Option Issue} {lines : List SourceLine}
    (hfound : ∀ l ∈ lines, ∀ i, found l = some i → i.StandsAt l) :
    Located lines (lines.filterMap found) := by
  intro i hi
  obtain ⟨l, hl, hil⟩ := List.mem_filterMap.1 hi
  exact ⟨l, hl, hfound l hl i hil⟩

theorem located_patternIssues {id : String} {pattern : Pattern}
    {verdict : SourceLine → List Char → Option Verdict} (hpattern : 0 < pattern.minLength)
    {lines : List SourceLine} (hlines : CodeFits lines) :
    Located lines (patternIssues id pattern verdict lines) := by
  have hcode : Located (codeLines lines) (patternIssues id pattern verdict lines) := by
    apply located_flatMap
    intro l hl i hi
    obtain ⟨m, hm, hverdict⟩ := List.mem_filterMap.1 hi
    obtain ⟨v, -, rfl⟩ := Option.map_eq_some_iff.1 hverdict
    have hstart := (Pattern.Match.fits_of_mem_scan hm).start_lt hpattern
    have hlength := hlines l (codeLines_subset lines hl)
    exact standsAt_issue_column id (by omega) v
  exact hcode.of_subset (codeLines_subset lines)

theorem locates_patternIssues {id description : String} {pattern : Pattern}
    {verdict : SourceLine → List Char → Option Verdict} (hpattern : 0 < pattern.minLength) :
    (Rule.mk id description (patternIssues id pattern verdict)).Locates :=
  fun _ hlines => located_patternIssues hpattern hlines

theorem locates_ofPattern (id description : String) {pattern : Pattern} (verdict : Verdict)
    (hpattern : 0 < pattern.minLength) : (ofPattern id description pattern verdict).Locates :=
  locates_patternIssues hpattern

theorem locates_ofMatch (id description : String) {pattern : Pattern} (verdict : String → Verdict)
    (hpattern : 0 < pattern.minLength) : (ofMatch id description pattern verdict).Locates :=
  locates_patternIssues hpattern

theorem locates_lineLength (id description : String) (limit : Nat) :
    (lineLength id description limit).Locates := by
  intro lines _ i hi
  obtain ⟨l, hl, rfl⟩ := List.mem_map.1 hi
  obtain ⟨hmem, hlong⟩ := List.mem_filter.1 hl
  have hlimit : limit < l.raw.length := by
    simpa using (Bool.and_eq_true_iff.1 hlong).2
  exact ⟨l, hmem, standsAt_issue_column id hlimit _⟩

/-- A rule that looks at each line of code by itself and gives no column. -/
theorem locates_of_codeLines {id description : String} {found : SourceLine → Option Issue}
    (hfound : ∀ l i, found l = some i → i.StandsAt l) :
    (Rule.mk id description fun lines => (codeLines lines).filterMap found).Locates :=
  fun lines _ => (located_filterMap fun l _ => hfound l).of_subset (codeLines_subset lines)

end Rule

open Rule

/-! ### The rules of each language -/

namespace Python

theorem standsAt_of_namingIssue? (l : SourceLine) (i : Issue) (h : namingIssue? l = some i) :
    i.StandsAt l := by
  unfold namingIssue? at h
  split at h
  · simp only at h
    split at h
    · cases h
      exact standsAt_issue _ l _
    · cases h
  · split at h
    · simp only at h
      split at h
      · cases h
      · cases h
        exact standsAt_issue _ l _
    · cases h

theorem standsAt_of_mutableDefaultIssue? (l : SourceLine) (i : Issue)
    (h : mutableDefaultIssue? l = some i) : i.StandsAt l := by
  unfold mutableDefaultIssue? at h
  split at h
  · cases h
    exact standsAt_issue _ l _
  · cases h

theorem rules_locate : ∀ rule ∈ rules, rule.Locates := by
  unfold rules
  simp only [List.forall_mem_cons, List.not_mem_nil, false_implies, implies_true, and_true]
  exact ⟨locates_lineLength _ _ _, locates_of_codeLines standsAt_of_namingIssue?,
    locates_ofPattern _ _ _ (by decide), locates_of_codeLines standsAt_of_mutableDefaultIssue?,
    locates_ofPattern _ _ _ (by decide), locates_ofPattern _ _ _ (by decide),
    locates_ofMatch _ _ _ (by decide), locates_ofPattern _ _ _ (by decide)⟩

end Python

namespace Script

/-- The operator of a comparison stands inside the line. -/
theorem standsAt_of_mem_looseEqualityIssues {l : SourceLine} (hl : l.code.length ≤ l.raw.length)
    {i : Issue} (h : i ∈ looseEqualityIssues l) : i.StandsAt l := by
  unfold looseEqualityIssues at h
  obtain ⟨m, hm, rfl⟩ := List.mem_map.1 h
  have hfits := Pattern.Match.fits_of_mem_scan hm
  have hsolid : looseEquality.remembersSolid .operator = true := by decide
  have hoperator := hfits.start_part?_lt (by decide) hsolid
  exact standsAt_issue_column _ (by omega) _

/-- The mark of an assertion is the second character of a match of two or more. -/
theorem standsAt_of_mem_nonNullIssues {l : SourceLine} (hl : l.code.length ≤ l.raw.length)
    {i : Issue} (h : i ∈ nonNullIssues l) : i.StandsAt l := by
  unfold nonNullIssues at h
  obtain ⟨m, hm, rfl⟩ := List.mem_map.1 h
  have hfits := Pattern.Match.fits_of_mem_scan hm
  have htwo : 2 ≤ nonNullMark.minLength := by decide
  have hstart := hfits.start_le
  have hstop := hfits.stop_le
  exact standsAt_issue_column _ (by omega) _

theorem rules_locate : ∀ rule ∈ rules, rule.Locates := by
  unfold rules
  simp only [List.forall_mem_cons, List.not_mem_nil, false_implies, implies_true, and_true]
  refine ⟨locates_ofPattern _ _ _ (by decide), ?_, locates_ofMatch _ _ _ (by decide),
    locates_ofPattern _ _ _ (by decide), locates_ofPattern _ _ _ (by decide),
    locates_lineLength _ _ _⟩
  intro lines hlines
  refine (located_flatMap fun l hl i hi => ?_).of_subset (codeLines_subset lines)
  exact standsAt_of_mem_looseEqualityIssues (hlines l (codeLines_subset lines hl)) hi

theorem typedRules_locate : ∀ rule ∈ typedRules, rule.Locates := by
  unfold typedRules
  simp only [List.forall_mem_append, List.forall_mem_cons, List.not_mem_nil, false_implies,
    implies_true, and_true]
  refine ⟨rules_locate, locates_ofPattern _ _ _ (by decide), ?_⟩
  intro lines hlines
  refine (located_flatMap fun l hl i hi => ?_).of_subset (codeLines_subset lines)
  exact standsAt_of_mem_nonNullIssues (hlines l (codeLines_subset lines hl)) hi

end Script

namespace Java

theorem located_namingIssues (types : List (List Char)) (lines : List SourceLine) :
    Located lines (namingIssues types lines) := by
  induction lines generalizing types with
  | nil => exact fun i hi => absurd hi List.not_mem_nil
  | cons line lines ih =>
    unfold namingIssues
    split
    · simp only
      split
      · exact (ih _).cons_line line
      · exact (ih _).cons_of_standsAt (standsAt_issue _ line _)
    · split
      · split
        · exact (ih _).cons_line line
        · exact (ih _).cons_of_standsAt (standsAt_issue _ line _)
      · exact (ih _).cons_line line

theorem located_emptyCatchIssues (lines : List SourceLine) :
    Located lines (emptyCatchIssues lines) := by
  induction lines with
  | nil => exact fun i hi => absurd hi List.not_mem_nil
  | cons line lines ih =>
    unfold emptyCatchIssues
    simp only
    split
    · exact ih.cons_of_standsAt (standsAt_issue _ line _)
    · exact ih.cons_line line

theorem rules_locate : ∀ rule ∈ rules, rule.Locates := by
  unfold rules
  simp only [List.forall_mem_cons, List.not_mem_nil, false_implies, implies_true, and_true]
  refine ⟨?_, ?_, locates_ofPattern _ _ _ (by decide), ?_, locates_ofPattern _ _ _ (by decide),
    locates_ofMatch _ _ _ (by decide), locates_lineLength _ _ _⟩
  · exact fun lines _ => (located_namingIssues [] _).of_subset (codeLines_subset lines)
  · exact fun lines _ => located_emptyCatchIssues lines
  · intro lines hlines
    exact (located_patternIssues (by decide) hlines).append
      (located_patternIssues (by decide) hlines)

end Java

namespace Php

theorem standsAt_of_injectionIssue? (l : SourceLine) (i : Issue) (h : injectionIssue? l = some i) :
    i.StandsAt l := by
  unfold injectionIssue? at h
  split at h
  · cases h
    exact standsAt_issue _ l _
  · cases h

/-- A tag is looked for in the raw line, and has two characters at least. -/
theorem standsAt_of_shortTagIssue? (l : SourceLine) (i : Issue) (h : shortTagIssue? l = some i) :
    i.StandsAt l := by
  unfold shortTagIssue? at h
  obtain ⟨m, hm, rfl⟩ := Option.map_eq_some_iff.1 h
  have hstart := (Pattern.Match.fits_of_find? hm).start_lt (by decide)
  exact standsAt_issue_column _ hstart _

theorem rules_locate : ∀ rule ∈ rules, rule.Locates := by
  unfold rules
  simp only [List.forall_mem_cons, List.not_mem_nil, false_implies, implies_true, and_true]
  refine ⟨locates_of_codeLines standsAt_of_injectionIssue?, locates_patternIssues (by decide),
    locates_ofMatch _ _ _ (by decide), locates_ofMatch _ _ _ (by decide),
    locates_ofPattern _ _ _ (by decide), ?_, locates_ofMatch _ _ _ (by decide)⟩
  intro lines _
  exact (located_filterMap fun l _ => standsAt_of_shortTagIssue? l).of_subset
    List.filter_sublist.subset

end Php

namespace Go

theorem outsideSetup_subset (inSetup : Bool) (lines : List SourceLine) :
    outsideSetup inSetup lines ⊆ lines := by
  induction lines generalizing inSetup with
  | nil => exact List.Subset.refl _
  | cons line lines ih =>
    have hstep : ∀ inSetup : Bool,
        (if inSetup then outsideSetup inSetup lines else line :: outsideSetup inSetup lines) ⊆
          line :: lines := by
      intro inSetup
      cases inSetup with
      | true => exact List.subset_cons_of_subset line (ih true)
      | false => exact List.cons_subset_cons line (ih false)
    exact hstep _

theorem located_exportedDocIssues (documented : Bool) (lines : List SourceLine) :
    Located lines (exportedDocIssues documented lines) := by
  induction lines generalizing documented with
  | nil => exact fun i hi => absurd hi List.not_mem_nil
  | cons line lines ih =>
    unfold exportedDocIssues
    simp only
    split
    · exact (ih _).cons_line line
    · split
      · split
        · exact (ih _).cons_of_standsAt (standsAt_issue _ line _)
        · exact (ih _).cons_line line
      · exact (ih _).cons_line line

theorem standsAt_of_namingIssue? (l : SourceLine) (i : Issue) (h : namingIssue? l = some i) :
    i.StandsAt l := by
  unfold namingIssue? at h
  split at h
  · split at h
    · cases h
    · cases h
      exact standsAt_issue _ l _
  · cases h

theorem rules_locate : ∀ rule ∈ rules, rule.Locates := by
  unfold rules
  simp only [List.forall_mem_cons, List.not_mem_nil, false_implies, implies_true, and_true]
  refine ⟨locates_ofPattern _ _ _ (by decide), ?_, locates_ofPattern _ _ _ (by decide), ?_,
    locates_of_codeLines standsAt_of_namingIssue?⟩
  · intro lines hlines
    have hsub : outsideSetup false (codeLines lines) ⊆ lines :=
      List.Subset.trans (outsideSetup_subset _ _) (codeLines_subset lines)
    have hfits : CodeFits (outsideSetup false (codeLines lines)) := fun l hl => hlines l (hsub hl)
    dsimp only
    refine (located_patternIssues ?_ hfits).of_subset hsub
    decide
  · exact fun lines _ => located_exportedDocIssues false lines

end Go

/-- **Every rule of a known language finds its issues in lines that are there.** -/
theorem Language.known_locates : ∀ l ∈ known, ∀ rule ∈ l.rules, rule.Locates := by
  unfold known
  simp only [List.forall_mem_cons, List.not_mem_nil, false_implies, implies_true, and_true]
  exact ⟨Python.rules_locate, Script.rules_locate, Script.typedRules_locate, Java.rules_locate,
    Php.rules_locate, Go.rules_locate⟩

end SourceReview
