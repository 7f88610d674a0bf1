import SourceReview.Outline.Script

/-!
# Spans of blocks

A block never extends beyond the lines that are there, whether its braces are closed or not.

An indented block reaches a line that is not blank if and only if no line up to it is indented like
the first line of the block or less (`lt_indentSpan_iff`); and it does not end in a blank line
(`indentSpan_eq_zero_or`). Blank lines do not count, comments do.
-/

namespace SourceReview

theorem braceSpanFrom_le (passed : Nat) (depth : Int) (opened : Bool) (lines : List SourceLine) :
    braceSpanFrom passed depth opened lines ≤ passed + lines.length - 1 := by
  fun_induction braceSpanFrom passed depth opened lines with
  | case1 passed => simp
  | case2 passed => simp
  | case3 passed depth opened line lines depth' opened' hopened hdepth ih =>
    rw [List.length_cons]
    omega
  | case4 passed => simp
  | case5 => simp
  | case6 passed depth opened line lines depth' opened' hopened hend hreach ih =>
    rw [List.length_cons]
    omega

theorem braceSpan_le (head : SourceLine) (rest : List SourceLine) :
    braceSpan (head :: rest) ≤ rest.length := by
  have h := braceSpanFrom_le 0 0 false (head :: rest)
  rw [List.length_cons] at h
  unfold braceSpan
  omega

theorem indentSpanFrom_lt (base last passed : Nat) (lines : List SourceLine)
    (hlast : last < passed) : indentSpanFrom base last passed lines < passed + lines.length := by
  fun_induction indentSpanFrom base last passed lines with
  | case1 last passed => exact hlast
  | case2 last passed line lines hblank ih =>
    have := ih (by omega)
    rw [List.length_cons]
    omega
  | case3 last passed line lines hblank hindent =>
    rw [List.length_cons]
    omega
  | case4 last passed line lines hblank hindent ih =>
    have := ih (by omega)
    rw [List.length_cons]
    omega

theorem indentSpan_le (head : SourceLine) (rest : List SourceLine) :
    indentSpan (head :: rest) ≤ rest.length := by
  have h := indentSpanFrom_lt head.indent 0 1 rest (by omega)
  rw [indentSpan]
  omega

theorem le_indentSpanFrom (base : Nat) {last passed : Nat} (lines : List SourceLine)
    (hlast : last < passed) : last ≤ indentSpanFrom base last passed lines := by
  fun_induction indentSpanFrom base last passed lines with
  | case1 last passed => exact Nat.le_refl last
  | case2 last passed line lines hblank ih => exact ih (by omega)
  | case3 last passed line lines hblank hindent => exact Nat.le_refl last
  | case4 last passed line lines hblank hindent ih =>
    have := ih (by omega)
    omega

theorem le_indentSpanFrom_iff (base : Nat) {last passed : Nat} (hlast : last < passed)
    (before : List SourceLine) {l : SourceLine} (after : List SourceLine)
    (hblank : l.isBlank = false) :
    passed + before.length ≤ indentSpanFrom base last passed (before ++ l :: after) ↔
      ∀ k ∈ before ++ [l], k.isBlank = false → base < k.indent := by
  induction before generalizing last passed with
  | nil =>
    rw [List.nil_append, List.nil_append, List.forall_mem_singleton, indentSpanFrom,
      if_neg (by simp [hblank])]
    split
    · rename_i hindent
      constructor
      · intro hle
        rw [List.length_nil] at hle
        omega
      · intro hlast
        have := hlast hblank
        omega
    · rename_i hindent
      have hle := le_indentSpanFrom base after (Nat.lt_succ_self passed)
      exact ⟨fun _ _ => by omega, fun _ => hle⟩
  | cons line before ih =>
    rw [List.cons_append, List.cons_append, List.forall_mem_cons, List.length_cons, indentSpanFrom,
      Nat.add_comm before.length, ← Nat.add_assoc]
    split
    · rename_i hline
      rw [ih (by omega)]
      simp [hline]
    · rename_i hline
      split
      · rename_i hindent
        constructor
        · intro hle
          omega
        · rintro ⟨hfirst, -⟩
          have := hfirst (by simpa using hline)
          omega
      · rename_i hindent
        rw [ih (by omega)]
        have hdeeper : base < line.indent := by omega
        simp [hdeeper]

/-- An indented block reaches a line that is not blank exactly if all lines up to it, blank ones
apart, are indented deeper than the first. -/
theorem lt_indentSpan_iff (head : SourceLine) (before : List SourceLine) {l : SourceLine}
    (after : List SourceLine) (hblank : l.isBlank = false) :
    before.length < indentSpan (head :: (before ++ l :: after)) ↔
      ∀ k ∈ before ++ [l], k.isBlank = false → head.indent < k.indent := by
  rw [← le_indentSpanFrom_iff head.indent Nat.one_pos before after hblank, Nat.add_comm]
  rfl

theorem indentSpanFrom_eq_or (base last passed : Nat) (lines : List SourceLine) :
    indentSpanFrom base last passed lines = last ∨
      ∃ before l after, lines = before ++ l :: after ∧ l.isBlank = false ∧
        indentSpanFrom base last passed lines = passed + before.length := by
  fun_induction indentSpanFrom base last passed lines with
  | case1 last passed => exact .inl rfl
  | case2 last passed line lines hline ih =>
    rcases ih with ih | ⟨before, l, after, rfl, hblank, ih⟩
    · exact .inl ih
    · refine .inr ⟨line :: before, l, after, rfl, hblank, ?_⟩
      rw [ih, List.length_cons]
      omega
  | case3 last passed line lines hline hindent => exact .inl rfl
  | case4 last passed line lines hline hindent ih =>
    right
    rcases ih with ih | ⟨before, l, after, rfl, hblank, ih⟩
    · exact ⟨[], line, lines, rfl, by simpa using hline, ih⟩
    · refine ⟨line :: before, l, after, rfl, hblank, ?_⟩
      rw [ih, List.length_cons]
      omega

/-- An indented block is one line, or ends in a line that is not blank. -/
theorem indentSpan_eq_zero_or (head : SourceLine) (rest : List SourceLine) :
    indentSpan (head :: rest) = 0 ∨
      ∃ before l after, rest = before ++ l :: after ∧ l.isBlank = false ∧
        indentSpan (head :: rest) = before.length + 1 := by
  rcases indentSpanFrom_eq_or head.indent 0 1 rest with h | ⟨before, l, after, hrest, hblank, h⟩
  · exact .inl h
  · exact .inr ⟨before, l, after, hrest, hblank, by rw [indentSpan, h, Nat.add_comm]⟩

theorem Script.arrowSpan_le (head : SourceLine) (rest : List SourceLine) :
    arrowSpan (head :: rest) ≤ rest.length := by
  unfold arrowSpan
  rw [List.head?_cons]
  dsimp only
  split
  · exact braceSpan_le head rest
  · exact Nat.zero_le _

/-- What `eachCode` makes is made of a line of code and the lines from it on. -/
theorem exists_suffix_of_mem_eachCode {α : Type} {f : SourceLine → List SourceLine → α}
    {lines : List SourceLine} {x : α} (h : x ∈ eachCode f lines) :
    ∃ head rest, (head :: rest) <:+ lines ∧ head.isCode = true ∧ x = f head (head :: rest) := by
  induction lines with
  | nil => exact absurd h List.not_mem_nil
  | cons line lines ih =>
    have htail : x ∈ eachCode f lines → ∃ head rest, (head :: rest) <:+ line :: lines ∧
        head.isCode = true ∧ x = f head (head :: rest) := by
      intro hx
      obtain ⟨head, rest, hsuffix, heq⟩ := ih hx
      exact ⟨head, rest, hsuffix.trans (List.suffix_cons _ _), heq⟩
    unfold eachCode at h
    split at h
    · rename_i hcode
      rcases List.mem_cons.1 h with heq | hx
      · exact ⟨line, lines, List.suffix_rfl, hcode, heq⟩
      · exact htail hx
    · exact htail h

end SourceReview
