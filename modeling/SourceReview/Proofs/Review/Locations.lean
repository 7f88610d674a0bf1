import SourceReview.Proofs.Advice.Matches
import SourceReview.Proofs.Outline.Entries
import SourceReview.Proofs.Review.RuleSelection
import SourceReview.Proofs.Rules.Locations

/-!
# Every reported location exists

An issue or a suggestion of a review points at a line of the text, or at line one, and the column of
an issue is a column of that line (`reported_locations_exist`).

What a review reports has three sources. Rules find issues in the lines of a listing
(`Language.known_locates`), advice takes the number of such a line
(`Language.known_advice_locates`), and what is said about a function or a class stands where the
outline has it. All else is said about the whole text, at line one.
-/

namespace SourceReview

/-! ### Advice -/

namespace Advice

/-- Every suggestion that the advice makes on numbered lines stands in one of them. -/
def Locates (a : Advice) : Prop :=
  ∀ lines : List SourceLine, (∀ l ∈ lines, 0 < l.number) →
    ∀ s, a lines = some s → ∃ l ∈ lines, s.line = l.number

theorem line_mem_of_ofLines {least : Nat} {numbers : List Nat} {propose : Nat → Proposal}
    {s : Suggestion} (h : ofLines least numbers propose = some s) : s.line ∈ numbers := by
  unfold ofLines at h
  split at h
  · obtain ⟨number, hhead, rfl⟩ := Option.map_eq_some_iff.1 h
    exact List.mem_of_mem_head? hhead
  · cases h

/-- Advice on the first of some lines is located if these lines are. -/
theorem locates_ofLines {least : Nat} {numbers : List SourceLine → List Nat}
    {propose : Nat → Proposal}
    (hnumbers : ∀ lines, ∀ number ∈ numbers lines, ∃ l ∈ lines, number = l.number) :
    Locates fun lines => ofLines least (numbers lines) propose :=
  fun lines _ _ hs => hnumbers lines _ (line_mem_of_ofLines hs)

theorem locates_ofPattern (pattern : Pattern) {least : Nat} (hleast : 0 < least)
    (propose : Nat → Proposal) : Locates (ofPattern pattern least propose) := by
  intro lines hlines s hs
  rw [ofPattern_eq_ofLines pattern hleast propose hlines] at hs
  obtain ⟨l, hl, hnumber⟩ := List.mem_flatMap.1 (line_mem_of_ofLines hs)
  exact ⟨l, codeLines_subset lines hl, List.eq_of_mem_replicate hnumber⟩

end Advice

open Advice

theorem Python.number_of_appendLoop? {l : SourceLine} {rest : List SourceLine} {number : Nat}
    (h : appendLoop? l rest = some number) : number = l.number := by
  unfold appendLoop? at h
  split at h
  · split at h
    · split at h
      · exact (Option.some.inj h).symm
      · cases h
    · cases h
  · cases h

theorem Python.advice_locates : ∀ a ∈ Python.advice, Locates a := by
  unfold advice
  simp only [List.forall_mem_cons, List.not_mem_nil, false_implies, implies_true, and_true]
  refine ⟨?_, locates_ofPattern _ (by decide) _, locates_ofPattern _ (by decide) _⟩
  refine locates_ofLines fun lines number hnumber => ?_
  obtain ⟨loop?, hloop, heq⟩ := List.mem_filterMap.1 hnumber
  obtain ⟨l, rest, hsuffix, -, rfl⟩ := exists_suffix_of_mem_eachCode hloop
  exact ⟨l, hsuffix.subset List.mem_cons_self, number_of_appendLoop? heq⟩

theorem Script.advice_locates : ∀ a ∈ Script.advice, Locates a := by
  unfold advice
  simp only [List.forall_mem_cons, List.not_mem_nil, false_implies, implies_true, and_true]
  exact ⟨locates_ofPattern _ (by decide) _, locates_ofPattern _ (by decide) _,
    locates_ofPattern _ (by decide) _, locates_ofPattern _ (by decide) _⟩

theorem Script.typedAdvice_locates : ∀ a ∈ Script.typedAdvice, Locates a := by
  unfold typedAdvice
  simp only [List.forall_mem_append, List.forall_mem_cons, List.not_mem_nil, false_implies,
    implies_true, and_true]
  exact ⟨advice_locates, locates_ofPattern _ (by decide) _⟩

theorem Java.advice_locates : ∀ a ∈ Java.advice, Locates a := by
  unfold advice
  simp only [List.forall_mem_cons, List.not_mem_nil, false_implies, implies_true, and_true]
  exact ⟨locates_ofPattern _ (by decide) _, locates_ofPattern _ (by decide) _,
    locates_ofPattern _ (by decide) _⟩

theorem Php.advice_locates : ∀ a ∈ Php.advice, Locates a := by
  unfold advice
  simp only [List.forall_mem_cons, List.not_mem_nil, false_implies, implies_true, and_true]
  refine ⟨locates_ofPattern _ (by decide) _, locates_ofPattern _ (by decide) _, ?_⟩
  refine locates_ofLines fun lines number hnumber => ?_
  obtain ⟨l, hl, rfl⟩ := List.mem_map.1 hnumber
  exact ⟨l, codeLines_subset lines (List.mem_filter.1 hl).1, rfl⟩

theorem Go.advice_locates : ∀ a ∈ Go.advice, Locates a := by
  unfold advice
  simp only [List.forall_mem_cons, List.not_mem_nil, false_implies, implies_true, and_true]
  exact ⟨locates_ofPattern _ (by decide) _, locates_ofPattern _ (by decide) _⟩

/-- **Every piece of advice of a known language points at a line that is there.** -/
theorem Language.known_advice_locates : ∀ l ∈ known, ∀ a ∈ l.advice, Locates a := by
  unfold known
  simp only [List.forall_mem_cons, List.not_mem_nil, false_implies, implies_true, and_true]
  exact ⟨Python.advice_locates, Script.advice_locates, Script.typedAdvice_locates,
    Java.advice_locates, Php.advice_locates, Go.advice_locates⟩

/-! ### Lines of a text -/

/-- A line of the text, or line one if the text is empty. -/
def IsLine (text : List Char) (line : Nat) : Prop :=
  1 ≤ line ∧ line ≤ max 1 (Text.lines text).length

theorem isLine_one (text : List Char) : IsLine text 1 := ⟨Nat.le_refl 1, Nat.le_max_left _ _⟩

theorem isLine_of_mem_listing {style : CommentStyle} {text : List Char} {l : SourceLine}
    (h : l ∈ listing style text) : IsLine text l.number :=
  ⟨(getElem?_of_mem_listing h).1, Nat.le_trans (number_le_of_mem_listing h) (Nat.le_max_right _ _)⟩

theorem codeFits_listing (style : CommentStyle) (text : List Char) :
    CodeFits (listing style text) :=
  fun _ hl => length_code_le hl

/-- Functions and classes of a known language begin in lines of the text. -/
theorem Language.isLine_of_mem_entries {l : Language} (hl : l ∈ known) {text : List Char}
    {e : Entry} (he : e ∈ (l.outline text).entries) : IsLine text e.line := by
  obtain ⟨head, hhead, hnumber, -⟩ := ((takenFrom_outline hl text).standsIn he).beginsInCode
  rw [← hnumber]
  exact isLine_of_mem_listing (List.mem_of_getElem? hhead)

/-! ### What a review reports -/

/-- A structural issue has no column, and stands at a function, at a class or at line one. -/
theorem StructuralRule.line_of_mem_allIssues {options : EffectiveOptions} {o : Outline}
    {m : Metrics} {i : Issue} (h : i ∈ allIssues options o m) :
    i.column = none ∧ (i.line = 1 ∨ ∃ e ∈ o.entries, i.line = e.line) := by
  obtain ⟨rule, -, hi⟩ := List.mem_flatMap.1 h
  split at hi
  case isFalse => exact absurd hi List.not_mem_nil
  case isTrue =>
    cases rule with
    | highComplexity =>
      obtain ⟨f, hf, hissue⟩ := List.mem_filterMap.1 hi
      unfold complexityIssue? at hissue
      dsimp only at hissue
      split at hissue
      · cases hissue
      · cases hissue
        exact ⟨rfl, .inr ⟨f.entry, List.mem_append_left _ (List.mem_map_of_mem hf), rfl⟩⟩
    | largeClass =>
      obtain ⟨c, hc, hissue⟩ := List.mem_filterMap.1 hi
      unfold classIssue? at hissue
      split at hissue
      · cases hissue
        exact ⟨rfl, .inr ⟨c.entry, List.mem_append_right _ (List.mem_map_of_mem hc), rfl⟩⟩
      · cases hissue
    | lowMaintainability =>
      have hissue := Option.mem_toList.1 hi
      unfold maintainabilityIssue? at hissue
      split at hissue
      · cases hissue
        exact ⟨rfl, .inl rfl⟩
      · cases hissue

/-- A suggestion comes from the advice of the language, or stands at a function or at line one. -/
theorem Language.line_of_mem_advise {l : Language} {m : Metrics} {text : List Char} {s : Suggestion}
    (h : s ∈ l.advise m text) :
    (∃ a ∈ l.advice, a (listing l.comments text) = some s) ∨
      (∃ e ∈ (l.outline text).entries, s.line = e.line) ∨ s.line = 1 := by
  unfold advise at h
  simp only [List.mem_append, Option.mem_toList] at h
  rcases h with ((h | h) | h) | h
  · exact .inl (List.mem_filterMap.1 h)
  · obtain ⟨f, hf, hs⟩ := List.mem_filterMap.1 h
    unfold onLength at hs
    split at hs
    · cases hs
    · cases hs
      exact .inr (.inl ⟨f.entry, List.mem_append_left _ (List.mem_map_of_mem hf), rfl⟩)
  · unfold onComments at h
    split at h
    · cases h
    · cases h
      exact .inr (.inr rfl)
  · unfold onComplexity at h
    split at h
    · cases h
    · cases h
      exact .inr (.inr rfl)

theorem Language.isLine_of_mem_advise {l : Language} (hl : l ∈ known) {m : Metrics}
    {text : List Char} {s : Suggestion} (h : s ∈ l.advise m text) : IsLine text s.line := by
  rcases line_of_mem_advise h with ⟨a, ha, hs⟩ | ⟨e, he, hline⟩ | hline
  · obtain ⟨line, hmem, hline⟩ :=
      known_advice_locates l hl a ha _ (fun _ => number_pos_of_mem_listing) s hs
    exact hline ▸ isLine_of_mem_listing hmem
  · exact hline ▸ isLine_of_mem_entries hl he
  · exact hline ▸ isLine_one text

/-- The issue points at a line of the text, and its column is one of that line. -/
structure Issue.PointsInto (text : List Char) (i : Issue) : Prop where
  isLine : IsLine text i.line
  column_mem : ∀ c, i.column = some c →
    ∃ raw, (Text.lines text)[i.line - 1]? = some raw ∧ 1 ≤ c ∧ c ≤ raw.length

theorem Issue.StandsAt.pointsInto {style : CommentStyle} {text : List Char} {l : SourceLine}
    {i : Issue} (h : i.StandsAt l) (hl : l ∈ listing style text) : i.PointsInto text where
  isLine := h.line_eq ▸ isLine_of_mem_listing hl
  column_mem c hc := ⟨l.raw, h.line_eq ▸ (getElem?_of_mem_listing hl).2.2, h.column_mem c hc⟩

namespace Review

theorem pointsInto_of_mem_raisedIssues {l : Language} (hl : l ∈ Language.known) {b : Binding}
    (hb : b.analyzer = l.analyzer) {options : EffectiveOptions} {text : List Char} {i : Issue}
    (h : i ∈ raisedIssues b options text) : i.PointsInto text := by
  unfold raisedIssues at h
  rw [hb] at h
  rcases List.mem_append.1 h with h | h
  · obtain ⟨hcolumn, hline⟩ := StructuralRule.line_of_mem_allIssues h
    refine ⟨?_, fun c hc => ?_⟩
    · rcases hline with hline | ⟨e, he, hline⟩
      · exact hline ▸ isLine_one text
      · exact hline ▸ Language.isLine_of_mem_entries hl he
    · rw [hcolumn] at hc
      cases hc
  · obtain ⟨rule, hrule, -, hi⟩ := Rule.exists_of_mem_checkAll h
    obtain ⟨line, hmem, hstands⟩ :=
      Language.known_locates l hl rule hrule _ (codeFits_listing l.comments text) i hi
    exact hstands.pointsInto hmem

end Review

/-- **Every reported location exists**, for every text in every known language and all options that
are valid. The review is made, its issues and suggestions point at lines of the text, or at line one
if there are none, and the column of an issue is one of the characters of its raw line. -/
theorem reported_locations_exist (l : Language) (hl : l ∈ Language.known) (b : Binding)
    (hb : b.analyzer = l.analyzer) (path text : String) (options : Options)
    (hvalid : ∃ resolved,
      EffectiveOptions.resolve options b.defaultRules b.defaultThresholds = .ok resolved) :
    let lines := Text.lines text.toList
    ∃ r, Review.ofText b path options text = .ok r ∧
      (∀ i ∈ r.issues, 1 ≤ i.line ∧ i.line ≤ max 1 lines.length ∧
        ∀ c, i.column = some c →
          ∃ raw, lines[i.line - 1]? = some raw ∧ 1 ≤ c ∧ c ≤ raw.length) ∧
      ∀ s ∈ r.suggestions, 1 ≤ s.line ∧ s.line ≤ max 1 lines.length := by
  intro lines
  obtain ⟨resolved, hresolved⟩ := hvalid
  refine ⟨Review.ofResolved b path resolved text.toList, ?_, ?_, ?_⟩
  · unfold Review.ofText
    rw [hresolved]
  · intro i hi
    rw [Review.issues_ofResolved, List.mem_mergeSort] at hi
    have hpoints := Review.pointsInto_of_mem_raisedIssues hl hb (List.mem_filter.1 hi).1
    exact ⟨hpoints.isLine.1, hpoints.isLine.2, hpoints.column_mem⟩
  · intro s hs
    unfold Review.ofResolved at hs
    dsimp only at hs
    split at hs
    · rw [List.mem_mergeSort, hb] at hs
      exact Language.isLine_of_mem_advise hl hs
    · exact absurd hs List.not_mem_nil

/-- The statement at a script whose comparison stands behind a quotation. The operator is found at
its own column, and not at the one of the quotation. -/
theorem reported_locations_exist_script :
    let b : Binding := ⟨"javascript", Language.javascript.analyzer, [], {}⟩
    let text := "\nvar x = \"==\" == y;"
    let options : Options := { rules := some ["eqeqeq", "no-var"] }
    let lines := Text.lines text.toList
    (b.analyzer.check ["eqeqeq", "no-var"] text.toList).map (fun i => (i.line, i.column))
        = [(2, some 14), (2, some 1)] ∧
      ∃ r, Review.ofText b "a.js" options text = .ok r ∧
        (∀ i ∈ r.issues, 1 ≤ i.line ∧ i.line ≤ max 1 lines.length ∧
          ∀ c, i.column = some c →
            ∃ raw, lines[i.line - 1]? = some raw ∧ 1 ≤ c ∧ c ≤ raw.length) ∧
        ∀ s ∈ r.suggestions, 1 ≤ s.line ∧ s.line ≤ max 1 lines.length := by
  intro b text options lines
  refine ⟨by decide, ?_⟩
  exact reported_locations_exist Language.javascript (by simp [Language.known]) b rfl "a.js" text
    options ⟨_, rfl⟩

end SourceReview
