import SourceReview.Advice.Basic

/-!
# Counting matches and listing their lines

Advice on a pattern goes through the code once, adds up the matches and keeps the line of the first.
`matchLines` lists the lines of all matches instead. Where lines are counted from one, the pass
gives the length of this list and its head (`countMatches_eq`): the zero that stands for no match
yet is the number of no line, so a first line is kept once it has been found. The advice is then
what `ofLines` makes of the list (`ofPattern_eq_ofLines`).
-/

namespace SourceReview.Advice

/-- The numbers of the lines in which a pattern matches code, each as often as it matches. -/
def matchLines (pattern : Pattern) (lines : List SourceLine) : List Nat :=
  (codeLines lines).flatMap fun l => List.replicate (pattern.count l.code) l.number

/-- The count of matches that stand in the lines `numbers`. -/
def MatchCount.ofNumbers (numbers : List Nat) : MatchCount := ⟨numbers.length, numbers.headD 0⟩

/-- One more line adds its matches behind those that have been found. -/
theorem countLine_ofNumbers (pattern : Pattern) {numbers : List Nat}
    (hnumbers : ∀ number ∈ numbers, 0 < number) (l : SourceLine) :
    countLine pattern (.ofNumbers numbers) l
      = .ofNumbers (numbers ++ List.replicate (pattern.count l.code) l.number) := by
  unfold countLine MatchCount.ofNumbers
  cases numbers with
  | nil =>
    cases pattern.count l.code with
    | zero => rfl
    | succ n => simp [List.replicate_succ]
  | cons first rest =>
    have hfirst : first ≠ 0 := Nat.ne_of_gt (hnumbers first List.mem_cons_self)
    simp [hfirst, Nat.add_right_comm]

/-- The pass from any matches on adds those of all lines, in their order. -/
theorem foldl_countLine (pattern : Pattern) {numbers : List Nat}
    (hnumbers : ∀ number ∈ numbers, 0 < number) {lines : List SourceLine}
    (hlines : ∀ l ∈ lines, 0 < l.number) :
    lines.foldl (countLine pattern) (.ofNumbers numbers)
      = .ofNumbers
          (numbers ++ lines.flatMap fun l => List.replicate (pattern.count l.code) l.number) := by
  induction lines generalizing numbers with
  | nil => rw [List.foldl_nil, List.flatMap_nil, List.append_nil]
  | cons l lines ih =>
    obtain ⟨hl, hlines⟩ := List.forall_mem_cons.1 hlines
    -- The numbers found so far stay positive, so a first line is never taken for none.
    have hmore : ∀ number ∈ numbers ++ List.replicate (pattern.count l.code) l.number,
        0 < number := by
      intro number hmem
      rcases List.mem_append.1 hmem with hmem | hmem
      · exact hnumbers number hmem
      · rw [List.eq_of_mem_replicate hmem]
        exact hl
    rw [List.foldl_cons, countLine_ofNumbers pattern hnumbers, ih hmore hlines, List.flatMap_cons,
      List.append_assoc]

/-- The pass over the code counts the matches and finds the first of their lines. -/
theorem countMatches_eq (pattern : Pattern) {lines : List SourceLine}
    (hlines : ∀ l ∈ lines, 0 < l.number) :
    countMatches pattern lines = .ofNumbers (matchLines pattern lines) :=
  foldl_countLine pattern (fun _ hmem => absurd hmem List.not_mem_nil)
    fun l hl => hlines l (List.mem_filter.1 hl).1

/-- Advice on a pattern is advice on the lines of its matches. With no match the pass has no line to
name, but then at least one match is missing. -/
theorem ofPattern_eq_ofLines (pattern : Pattern) {least : Nat} (hleast : 0 < least)
    (propose : Nat → Proposal) {lines : List SourceLine} (hlines : ∀ l ∈ lines, 0 < l.number) :
    ofPattern pattern least propose lines = ofLines least (matchLines pattern lines) propose := by
  unfold ofPattern ofLines
  rw [countMatches_eq pattern hlines]
  unfold MatchCount.ofNumbers
  cases matchLines pattern lines with
  | nil => simp [Nat.not_le_of_lt hleast]
  | cons first rest => rfl

end SourceReview.Advice
