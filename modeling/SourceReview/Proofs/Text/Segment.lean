import SourceReview.Text.Blank
import SourceReview.Text.Segment

/-!
# Texts inside of texts

What the searches for one text in another answer: a text begins with another if that is a prefix of
it (`startsWith_iff`), and the pieces before and after the first occurrence of a mark, with the mark
between them, are the text (`splitFirst_eq_some_iff`). A trimmed text stands in the original one
between blanks (`exists_eq_trim`). The pieces between separators hold no separator
(`eq_false_of_mem_splitBy`).
-/

namespace SourceReview.Text

/-! ### Beginnings -/

theorem after?_eq_some_iff {head cs rest : List Char} :
    after? head cs = some rest ↔ cs = head ++ rest := by
  induction head generalizing cs with
  | nil => simp [after?]
  | cons h hs ih =>
    cases cs with
    | nil => simp [after?]
    | cons c cs =>
      rw [after?]
      by_cases hc : h = c
      · simp [hc, ih]
      · simp [hc, Ne.symm hc]

theorem startsWith_iff {cs head : List Char} : startsWith cs head = true ↔ head <+: cs := by
  unfold startsWith
  rw [Option.isSome_iff_exists]
  constructor
  · rintro ⟨rest, hrest⟩
    exact ⟨rest, (after?_eq_some_iff.1 hrest).symm⟩
  · rintro ⟨rest, hrest⟩
    exact ⟨rest, after?_eq_some_iff.2 hrest.symm⟩

theorem endsWith_iff {cs tail : List Char} : endsWith cs tail = true ↔ tail <:+ cs := by
  show startsWith cs.reverse tail.reverse = true ↔ _
  rw [startsWith_iff, List.reverse_prefix]

theorem startsWith_pair_iff {a b c : Char} {cs : List Char} :
    startsWith (c :: cs) [a, b] = true ↔ c = a ∧ cs.head? = some b := by
  rw [startsWith_iff, List.cons_prefix_cons]
  cases cs with
  | nil => simp
  | cons d cs => simp [eq_comm]

theorem startsWith_triple_iff {a c : Char} {cs : List Char} :
    startsWith (c :: cs) [a, a, a] = true ↔ c = a ∧ cs.take 2 = [c, c] := by
  rw [startsWith_iff, List.cons_prefix_cons, List.prefix_iff_eq_take]
  constructor
  · rintro ⟨rfl, htake⟩
    exact ⟨rfl, htake.symm⟩
  · rintro ⟨rfl, htake⟩
    exact ⟨rfl, htake.symm⟩

/-! ### Occurrences -/

theorem eq_of_splitFirst_eq_some {mark cs before rest : List Char}
    (h : splitFirst mark cs = some (before, rest)) : cs = before ++ (mark ++ rest) := by
  induction cs generalizing before with
  | nil =>
    rw [splitFirst] at h
    obtain ⟨rest', hrest', heq⟩ := Option.map_eq_some_iff.1 h
    cases heq
    rw [List.nil_append]
    exact after?_eq_some_iff.1 hrest'
  | cons c cs ih =>
    rw [splitFirst] at h
    split at h
    · rename_i rest' hrest'
      cases h
      rw [List.nil_append]
      exact after?_eq_some_iff.1 hrest'
    · obtain ⟨⟨before', rest'⟩, hsplit, heq⟩ := Option.map_eq_some_iff.1 h
      cases heq
      rw [List.cons_append, ← ih hsplit]

/-- A mark that a text begins with is its first occurrence. -/
theorem splitFirst_cons_of_eq_append {mark cs rest : List Char} {c : Char}
    (h : c :: cs = mark ++ rest) : splitFirst mark (c :: cs) = some ([], rest) := by
  rw [splitFirst, after?_eq_some_iff.2 h]

/-- Where a text does not begin with a mark, the mark is looked for after the first character. -/
theorem splitFirst_cons_of_not_startsWith {mark cs : List Char} {c : Char}
    (h : startsWith (c :: cs) mark = false) :
    splitFirst mark (c :: cs)
      = (splitFirst mark cs).map fun (before, rest) => (c :: before, rest) := by
  rw [splitFirst]
  unfold startsWith at h
  cases hafter : after? mark (c :: cs) with
  | none => rfl
  | some rest => simp [hafter] at h

/-- A mark is not found where it does not occur. -/
theorem splitFirst_eq_none_iff {mark cs : List Char} :
    splitFirst mark cs = none ↔ ¬ mark <:+: cs := by
  induction cs with
  | nil =>
    rw [splitFirst, Option.map_eq_none_iff, List.infix_nil]
    cases mark <;> simp [after?]
  | cons c cs ih =>
    rw [List.infix_cons_iff, ← startsWith_iff]
    cases hstart : startsWith (c :: cs) mark with
    | true =>
      obtain ⟨rest, hrest⟩ := startsWith_iff.1 hstart
      simp [splitFirst_cons_of_eq_append hrest.symm]
    | false =>
      rw [splitFirst_cons_of_not_startsWith hstart, Option.map_eq_none_iff, ih]
      simp

theorem dropLast_cons_append {mark : List Char} (hmark : mark ≠ []) (c : Char)
    (before : List Char) :
    (c :: before ++ mark).dropLast = c :: (before ++ mark).dropLast := by
  rw [List.cons_append, List.dropLast_cons_of_ne_nil (List.append_ne_nil_of_right_ne_nil _ hmark)]

theorem prefix_cons_dropLast (c : Char) (before mark rest : List Char) :
    c :: (before ++ mark).dropLast <+: c :: (before ++ (mark ++ rest)) := by
  refine List.cons_prefix_cons.2 ⟨rfl, ?_⟩
  rw [← List.append_assoc]
  exact (List.dropLast_prefix _).trans (List.prefix_append _ _)

/-- The text before the first occurrence of a mark is the one that the mark follows, if the mark
does not occur any earlier. -/
theorem splitFirst_eq_some_iff {mark cs before rest : List Char} (hmark : mark ≠ []) :
    splitFirst mark cs = some (before, rest) ↔
      cs = before ++ (mark ++ rest) ∧ ¬ mark <:+: (before ++ mark).dropLast := by
  have hpos := List.length_pos_iff.2 hmark
  constructor
  · intro h
    have hcs := eq_of_splitFirst_eq_some h
    refine ⟨hcs, ?_⟩
    induction before generalizing cs with
    | nil =>
      intro hinfix
      have hlength := hinfix.length_le
      rw [List.nil_append, List.length_dropLast] at hlength
      omega
    | cons c before ih =>
      subst hcs
      have hstart : startsWith (c :: (before ++ (mark ++ rest))) mark = false := by
        rw [Bool.eq_false_iff]
        intro hstart
        obtain ⟨rest', hrest⟩ := startsWith_iff.1 hstart
        rw [List.cons_append, splitFirst_cons_of_eq_append hrest.symm] at h
        cases h
      rw [List.cons_append, splitFirst_cons_of_not_startsWith hstart] at h
      obtain ⟨⟨before', rest'⟩, hsplit, heq⟩ := Option.map_eq_some_iff.1 h
      cases heq
      rw [dropLast_cons_append hmark, List.infix_cons_iff]
      rintro (hbegins | hinfix)
      · -- A mark that begins the text would have been found there.
        have hwhole := startsWith_iff.2 (hbegins.trans (prefix_cons_dropLast c before mark rest))
        rw [hstart] at hwhole
        cases hwhole
      · exact ih hsplit rfl hinfix
  · rintro ⟨rfl, hfirst⟩
    induction before with
    | nil =>
      cases mark with
      | nil => contradiction
      | cons m mark => exact splitFirst_cons_of_eq_append rfl
    | cons c before ih =>
      rw [dropLast_cons_append hmark, List.infix_cons_iff, not_or] at hfirst
      have hstart : startsWith (c :: (before ++ (mark ++ rest))) mark = false := by
        rw [Bool.eq_false_iff]
        intro hstart
        -- The text up to the last character of the mark is long enough for an earlier one.
        have hlength : mark.length ≤ (c :: (before ++ mark).dropLast).length := by
          rw [List.length_cons, List.length_dropLast, List.length_append]
          omega
        exact hfirst.1 (List.prefix_of_prefix_length_le (startsWith_iff.1 hstart)
          (prefix_cons_dropLast c before mark rest) hlength)
      rw [List.cons_append, splitFirst_cons_of_not_startsWith hstart, ih hfirst.2]
      rfl

/-! ### Trimmed texts -/

theorem ne_of_isBlank {c a : Char} (hc : isBlank c = true) (ha : isBlank a = false) : c ≠ a := by
  rintro rfl
  rw [ha] at hc
  cases hc

theorem exists_eq_trimStart (cs : List Char) :
    ∃ lead, cs = lead ++ trimStart cs ∧ ∀ c ∈ lead, isBlank c = true := by
  refine ⟨cs.takeWhile isBlank, (List.takeWhile_append_dropWhile ..).symm, ?_⟩
  intro c hc
  exact List.all_eq_true.1 List.all_takeWhile c hc

theorem exists_eq_trimEnd (cs : List Char) :
    ∃ trail, cs = trimEnd cs ++ trail ∧ ∀ c ∈ trail, isBlank c = true := by
  refine ⟨(cs.reverse.takeWhile isBlank).reverse, ?_, ?_⟩
  · unfold trimEnd dropTrailing
    rw [← List.reverse_append, List.takeWhile_append_dropWhile, List.reverse_reverse]
  · intro c hc
    exact List.all_eq_true.1 List.all_takeWhile c (List.mem_reverse.1 hc)

/-- A text is its trimmed form between blanks. -/
theorem exists_eq_trim (cs : List Char) :
    ∃ lead trail, cs = lead ++ (trim cs ++ trail) ∧ (∀ c ∈ lead, isBlank c = true) ∧
      ∀ c ∈ trail, isBlank c = true := by
  obtain ⟨lead, hlead, hblank⟩ := exists_eq_trimStart cs
  obtain ⟨trail, htrail, hblank'⟩ := exists_eq_trimEnd (trimStart cs)
  refine ⟨lead, trail, ?_, hblank, hblank'⟩
  calc cs = lead ++ trimStart cs := hlead
    _ = lead ++ (trim cs ++ trail) := congrArg (lead ++ ·) htrail

theorem length_trim_le (cs : List Char) : (trim cs).length ≤ cs.length := by
  obtain ⟨lead, trail, heq, -⟩ := exists_eq_trim cs
  have hlength := congrArg List.length heq
  simp only [List.length_append] at hlength
  omega

/-- A text of blanks is trimmed to nothing, and no other text is. -/
theorem trim_eq_nil_iff {cs : List Char} : trim cs = [] ↔ ∀ c ∈ cs, isBlank c = true := by
  constructor
  · intro h
    obtain ⟨lead, trail, heq, hlead, htrail⟩ := exists_eq_trim cs
    rw [h, List.nil_append] at heq
    intro c hc
    rw [heq, List.mem_append] at hc
    exact hc.elim (hlead c) (htrail c)
  · intro h
    have hstart : (cs ++ []).dropWhile isBlank = [] := List.dropWhile_append_of_pos h
    rw [List.append_nil] at hstart
    unfold trim trimStart dropLeading
    rw [hstart]
    rfl

theorem isEmpty_trim (cs : List Char) : (trim cs).isEmpty = cs.all isBlank := by
  rw [Bool.eq_iff_iff, List.isEmpty_iff, trim_eq_nil_iff, List.all_eq_true]

/-- A trimmed text does not begin with a blank. -/
theorem isBlank_of_trim_eq_cons {cs rest : List Char} {c : Char} (h : trim cs = c :: rest) :
    isBlank c = false := by
  -- Trimming the end takes nothing from the beginning unless it takes everything.
  obtain ⟨trail, htrail, -⟩ := exists_eq_trimEnd (trimStart cs)
  have hstart : trimStart cs = c :: (rest ++ trail) := by
    rw [htrail]
    show trim cs ++ trail = _
    rw [h, List.cons_append]
  have hhead := List.head?_dropWhile_not isBlank cs
  unfold trimStart dropLeading at hstart
  rw [hstart] at hhead
  simpa using hhead

/-! ### Pieces between separators -/

/-- A text without separators is one piece. -/
theorem splitBy_eq_singleton {p : Char → Bool} {cs : List Char} (h : ∀ c ∈ cs, p c = false) :
    splitBy p cs = [cs] := by
  induction cs with
  | nil => rfl
  | cons c cs ih =>
    have hc : p c = false := h c List.mem_cons_self
    rw [splitBy, hc, ih fun d hd => h d (List.mem_cons_of_mem _ hd)]
    rfl

/-- A text without separators that a separator follows is the first piece. -/
theorem splitBy_append_cons {p : Char → Bool} {cs : List Char} {c : Char}
    (h : ∀ c ∈ cs, p c = false) (hc : p c = true) (rest : List Char) :
    splitBy p (cs ++ c :: rest) = cs :: splitBy p rest := by
  induction cs with
  | nil => rw [List.nil_append, splitBy, if_pos hc]
  | cons d cs ih =>
    rw [List.forall_mem_cons] at h
    rw [List.cons_append, splitBy, h.1, ih h.2]
    rfl

/-- No piece holds a separator. -/
theorem eq_false_of_mem_splitBy {p : Char → Bool} {cs piece : List Char} {c : Char}
    (hpiece : piece ∈ splitBy p cs) (hc : c ∈ piece) : p c = false := by
  induction cs generalizing piece with
  | nil =>
    rw [splitBy, List.mem_singleton] at hpiece
    exact absurd (hpiece ▸ hc) List.not_mem_nil
  | cons d cs ih =>
    rw [splitBy] at hpiece
    split at hpiece
    · rcases List.mem_cons.1 hpiece with rfl | hpiece
      · exact absurd hc List.not_mem_nil
      · exact ih hpiece hc
    · rename_i hd
      split at hpiece
      · rename_i first pieces hsplit
        rw [hsplit] at ih
        rcases List.mem_cons.1 hpiece with rfl | hpiece
        · rcases List.mem_cons.1 hc with rfl | hc
          · exact Bool.eq_false_iff.2 hd
          · exact ih List.mem_cons_self hc
        · exact ih (List.mem_cons_of_mem _ hpiece) hc
      · rw [List.mem_singleton] at hpiece
        subst hpiece
        rw [List.mem_singleton.1 hc]
        exact Bool.eq_false_iff.2 hd

end SourceReview.Text
