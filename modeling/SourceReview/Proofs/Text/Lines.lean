import SourceReview.Text.Lines

/-!
# Splitting undoes joining

Lines that are joined and split again come back, apart from an empty last one
(`lines_joinLines`). A joined text shows where a line ended only if no line holds a line feed and
none but the last ends in a carriage return, which is what `Joinable` asks for. The lines of a text
are joinable unless the text has two carriage returns before a line feed (`joinable_lines`): the
second of them ends the line together with the line feed, and the first one stays.
-/

namespace SourceReview.Text

/-! ### The first line of a text -/

/-- A character that does not end the first line belongs to it. -/
theorem lines_cons {c : Char} {cs : List Char} (hc : c ≠ '\n')
    (hreturn : c = '\r' → cs.head? ≠ some '\n') :
    lines (c :: cs) = (c :: (lines cs).headD []) :: (lines cs).tail := by
  rw [lines.eq_def]
  split
  · contradiction
  · rename_i heq
    exact absurd (List.cons.inj heq).1 hc
  · rename_i heq
    obtain ⟨hreturned, rfl⟩ := List.cons.inj heq
    exact absurd rfl (hreturn hreturned)
  · rename_i heq
    obtain ⟨rfl, rfl⟩ := List.cons.inj heq
    cases lines cs <;> rfl

/-- Only a text that begins with the end of a line has an empty first line. -/
theorem head?_of_lines_eq_nil_cons {cs : List Char} {rest : List (List Char)}
    (h : lines cs = [] :: rest) : cs.head? = some '\n' ∨ ['\r', '\n'] <+: cs := by
  cases cs with
  | nil => cases h
  | cons c cs =>
    by_cases hc : c = '\n'
    · exact .inl (congrArg some hc)
    · right
      by_cases hreturn : c = '\r' → cs.head? ≠ some '\n'
      · rw [lines_cons hc hreturn] at h
        cases h
      · obtain ⟨rfl, hhead⟩ : c = '\r' ∧ cs.head? = some '\n' := by
          simpa [Classical.not_imp] using hreturn
        obtain ⟨cs', rfl⟩ := List.head?_eq_some_iff.1 hhead
        exact ⟨cs', rfl⟩

/-- A text with a character in it has a line. -/
theorem eq_nil_of_lines_eq_nil {cs : List Char} (h : lines cs = []) : cs = [] := by
  fun_cases lines cs with
  | case1 => rfl
  | case2 => cases h
  | case3 => cases h
  | case4 c cs hfeed hreturn hnil =>
    rw [lines.eq_4 c cs hfeed hreturn, hnil] at h
    cases h
  | case5 c cs hfeed hreturn line rest hlines =>
    rw [lines.eq_4 c cs hfeed hreturn, hlines] at h
    cases h

/-- The first line of a text is all of it, or one of the characters that end lines follows. -/
theorem eq_append_of_lines_eq_cons {cs line : List Char} {rest : List (List Char)}
    (h : lines cs = line :: rest) :
    cs = line ∨ ∃ d more, (d = '\n' ∨ d = '\r') ∧ cs = line ++ d :: more := by
  fun_induction lines cs generalizing line rest with
  | case1 => cases h
  | case2 cs =>
    obtain ⟨rfl, -⟩ := List.cons.inj h
    exact .inr ⟨'\n', cs, .inl rfl, rfl⟩
  | case3 cs =>
    obtain ⟨rfl, -⟩ := List.cons.inj h
    exact .inr ⟨'\r', '\n' :: cs, .inr rfl, rfl⟩
  | case4 c cs _ _ hnil =>
    obtain ⟨rfl, -⟩ := List.cons.inj h
    exact .inl (congrArg _ (eq_nil_of_lines_eq_nil hnil))
  | case5 c cs _ _ first others hlines ih =>
    obtain ⟨rfl, -⟩ := List.cons.inj h
    rcases ih hlines with rfl | ⟨d, more, hd, rfl⟩
    · exact .inl rfl
    · exact .inr ⟨d, more, hd, rfl⟩

/-- A line before a line feed is the first line of a text. -/
theorem lines_append_newline {line : List Char} (hfeed : '\n' ∉ line)
    (hreturn : line.getLast? ≠ some '\r') (rest : List Char) :
    lines (line ++ '\n' :: rest) = line :: lines rest := by
  induction line with
  | nil => rfl
  | cons c line ih =>
    rw [List.mem_cons, not_or] at hfeed
    have hc : c ≠ '\n' := fun h => hfeed.1 h.symm
    cases line with
    | nil =>
      have hcr : c ≠ '\r' := by simpa using hreturn
      rw [List.singleton_append, lines_cons hc (fun h => absurd h hcr)]
      rfl
    | cons d line =>
      have hd : d ≠ '\n' := by
        intro h
        exact hfeed.2 (by simp [h])
      rw [List.cons_append, lines_cons hc (by simpa using fun _ => hd),
        ih hfeed.2 (by simpa using hreturn)]
      rfl

/-- A text without line feeds is its only line, if there is anything in it. -/
theorem lines_of_newline_not_mem {line : List Char} (hfeed : '\n' ∉ line) :
    lines line = if line.isEmpty then [] else [line] := by
  induction line with
  | nil => rfl
  | cons c line ih =>
    rw [List.mem_cons, not_or] at hfeed
    have hhead : line.head? ≠ some '\n' := fun h => hfeed.2 (List.mem_of_head? h)
    rw [lines_cons (fun h => hfeed.1 h.symm) (fun _ => hhead), ih hfeed.2]
    cases line <;> rfl

/-! ### Joined lines -/

/-- Lines that can be told apart after they are joined. -/
structure Joinable (raws : List (List Char)) : Prop where
  /-- No line holds a line feed. -/
  newline_not_mem : ∀ raw ∈ raws, '\n' ∉ raw
  /-- No line but the last ends in a carriage return. -/
  getLast?_ne : ∀ raw ∈ raws.dropLast, raw.getLast? ≠ some '\r'

/-- Lines that stand together among joinable ones are joinable. -/
theorem Joinable.of_isInfix {part raws : List (List Char)} (h : Joinable raws)
    (hpart : part <:+: raws) : Joinable part := by
  refine ⟨fun raw hraw => h.newline_not_mem raw (hpart.subset hraw), ?_⟩
  intro raw hraw
  apply h.getLast?_ne raw
  -- What is not the last of the part is not the last of all.
  obtain ⟨before, after, rfl⟩ := hpart
  have hne : part ≠ [] := by
    rintro rfl
    exact List.not_mem_nil hraw
  rw [← List.dropLast_concat_getLast hne, List.append_assoc, List.append_assoc,
    List.dropLast_append_of_ne_nil (by simp), List.dropLast_append_of_ne_nil (by simp)]
  simp [hraw]

/-- **Splitting undoes joining**, apart from an empty last line. -/
theorem lines_joinLines {raws : List (List Char)} (h : Joinable raws) :
    lines (joinLines raws)
      = if raws.getLast?.any List.isEmpty then raws.dropLast else raws := by
  induction raws with
  | nil => rfl
  | cons raw raws ih =>
    cases raws with
    | nil =>
      rw [joinLines, lines_of_newline_not_mem (h.newline_not_mem raw (by simp))]
      rfl
    | cons next raws =>
      have hrest : Joinable (next :: raws) := h.of_isInfix (List.suffix_cons _ _).isInfix
      rw [joinLines.eq_3 raw _ (List.cons_ne_nil _ _),
        lines_append_newline (h.newline_not_mem raw (by simp)) (h.getLast?_ne raw (by simp)),
        ih hrest, List.getLast?_cons_cons, List.dropLast_cons_cons]
      split <;> rfl

/-! ### The lines of a text -/

theorem newline_not_mem_of_mem_lines (text : List Char) :
    ∀ raw ∈ lines text, '\n' ∉ raw := by
  fun_induction lines text with
  | case1 => simp
  | case2 cs ih => simpa using ih
  | case3 cs ih => simpa using ih
  | case4 c cs hfeed _ hnil ih => simpa using fun h => hfeed h.symm
  | case5 c cs hfeed _ line rest hlines ih =>
    rw [hlines, List.forall_mem_cons] at ih
    rw [List.forall_mem_cons]
    refine ⟨?_, ih.2⟩
    rw [List.mem_cons, not_or]
    exact ⟨fun h => hfeed h.symm, ih.1⟩

theorem forall_mem_dropLast_cons {α : Type} {p : α → Prop} {a : α} {as : List α}
    (ha : as ≠ [] → p a) (has : ∀ b ∈ as.dropLast, p b) : ∀ b ∈ (a :: as).dropLast, p b := by
  cases as with
  | nil => simp
  | cons b bs =>
    rw [List.dropLast_cons_cons, List.forall_mem_cons]
    exact ⟨ha (List.cons_ne_nil _ _), has⟩

theorem getLast?_ne_of_mem_lines (text : List Char) (h : ¬ ['\r', '\r', '\n'] <:+: text) :
    ∀ raw ∈ (lines text).dropLast, raw.getLast? ≠ some '\r' := by
  fun_induction lines text with
  | case1 => simp
  | case2 cs ih =>
    have hcs : ¬ ['\r', '\r', '\n'] <:+: cs := fun hin => h (List.infix_cons hin)
    exact forall_mem_dropLast_cons (by simp) (ih hcs)
  | case3 cs ih =>
    have hcs : ¬ ['\r', '\r', '\n'] <:+: cs :=
      fun hin => h (List.infix_cons (List.infix_cons hin))
    exact forall_mem_dropLast_cons (by simp) (ih hcs)
  | case4 c cs hfeed _ hnil ih => simp
  | case5 c cs hfeed hreturn line rest hlines ih =>
    have hcs : ¬ ['\r', '\r', '\n'] <:+: cs := fun hin => h (List.infix_cons hin)
    have ih := ih hcs
    rw [hlines] at ih
    refine forall_mem_dropLast_cons ?_ fun raw hraw => ih raw ?_
    · intro hrest
      cases line with
      | cons d line =>
        rw [List.getLast?_cons_cons]
        exact ih _ (by simp [List.dropLast_cons_of_ne_nil hrest])
      | nil =>
        -- The character stands before the end of a line, so it is no carriage return.
        intro hlast
        have hc : c = '\r' := by simpa using hlast
        rcases head?_of_lines_eq_nil_cons hlines with hhead | ⟨cs', rfl⟩
        · obtain ⟨cs', rfl⟩ := List.head?_eq_some_iff.1 hhead
          exact hreturn cs' hc rfl
        · subst hc
          exact h ⟨[], cs', rfl⟩
    · cases rest with
      | nil => exact absurd hraw List.not_mem_nil
      | cons next rest => exact List.mem_cons_of_mem _ hraw

/-- The lines of a text without two carriage returns before a line feed are joinable. -/
theorem joinable_lines {text : List Char} (h : ¬ ['\r', '\r', '\n'] <:+: text) :
    Joinable (lines text) :=
  ⟨newline_not_mem_of_mem_lines text, getLast?_ne_of_mem_lines text h⟩

end SourceReview.Text
