import SourceReview.Proofs.Outline.Entries

/-!
# Indented blocks lie in each other

A function or class of Python extends over the lines that are indented deeper than its first line.
Where each of them ends is found by a search of its own, and still no two of them overlap only in
part: they have no line in common, or one lies in the other (`Python.entries_apart_or_nested`).

This is a matter of blocks alone. A line inside a block is indented deeper than the first line of
the block, and so is every line of the block that begins there (`indentSpan_nested`).
-/

namespace SourceReview

/-- **A block that begins inside another ends inside it**, and its first line is indented deeper. -/
theorem indentSpan_nested (head : SourceLine) (before : List SourceLine) {l : SourceLine}
    (after : List SourceLine) (hblank : l.isBlank = false)
    (hinside : before.length < indentSpan (head :: (before ++ l :: after))) :
    head.indent < l.indent ∧
      before.length + 1 + indentSpan (l :: after)
        ≤ indentSpan (head :: (before ++ l :: after)) := by
  have houter := (lt_indentSpan_iff head before after hblank).1 hinside
  have hl : head.indent < l.indent :=
    houter l (List.mem_append_right before List.mem_cons_self) hblank
  refine ⟨hl, ?_⟩
  rcases indentSpan_eq_zero_or l after with hzero | ⟨between, last, rest, rfl, hlast, hspan⟩
  · omega
  · -- Up to `l` the lines belong to the outer block, and after it they are deeper than `l`.
    have hinner := (lt_indentSpan_iff l between rest hlast).1 (by omega)
    have hreach : (before ++ l :: between).length
        < indentSpan (head :: ((before ++ l :: between) ++ last :: rest)) := by
      rw [lt_indentSpan_iff head (before ++ l :: between) rest hlast]
      intro k hk hkblank
      rw [List.append_assoc, List.mem_append, List.cons_append, List.mem_cons] at hk
      rcases hk with hk | rfl | hk
      · exact houter k (List.mem_append_left _ hk) hkblank
      · exact hl
      · exact Nat.lt_trans hl (hinner k hk hkblank)
    rw [List.append_assoc, List.cons_append, List.length_append, List.length_cons] at hreach
    omega

/-! ### Entries over indented blocks -/

theorem SourceLine.isBlank_of_isCode {l : SourceLine} (h : l.isCode = true) :
    l.isBlank = false := by
  have hkind : l.kind = .code := by simpa [isCode] using h
  simp [isBlank, hkind]

/-- The number of a line of a listing, counted from the end. -/
theorem number_add_length_of_suffix {style : CommentStyle} {text : List Char} {head : SourceLine}
    {rest : List SourceLine} (h : (head :: rest) <:+ listing style text) :
    head.number + rest.length = (listing style text).length := by
  have hpos := (getElem?_of_mem_listing (h.subset List.mem_cons_self)).1
  have hlength := congrArg List.length (drop_number_of_suffix h)
  rw [List.length_drop, List.length_cons] at hlength
  omega

namespace Entry

/-- The entry extends over the line with the number `n`. -/
def Covers (e : Entry) (n : Nat) : Prop := e.line ≤ n ∧ n ≤ e.endLine

/-- An entry that extends over the indented block of a line of code. -/
def IsIndented (lines : List SourceLine) (e : Entry) : Prop :=
  ∃ head rest, (head :: rest) <:+ lines ∧ head.isCode = true ∧ e.line = head.number ∧
    e.endLine = head.number + indentSpan (head :: rest)

namespace IsIndented

variable {style : CommentStyle} {text : List Char} {e e' : Entry}

/-- An entry that begins after the first line of another, and not after its last line. -/
theorem nested (h : e.IsIndented (listing style text)) (h' : e'.IsIndented (listing style text))
    (hlt : e.line < e'.line) (hle : e'.line ≤ e.endLine) :
    e'.endLine ≤ e.endLine ∧ ∃ raw raw', (Text.lines text)[e.line - 1]? = some raw ∧
      (Text.lines text)[e'.line - 1]? = some raw' ∧ indentation raw < indentation raw' := by
  obtain ⟨head, rest, hsuffix, -, hline, hend⟩ := h
  obtain ⟨head', rest', hsuffix', hcode, hline', hend'⟩ := h'
  have hnumber := number_add_length_of_suffix hsuffix
  have hnumber' := number_add_length_of_suffix hsuffix'
  have hinner : (head' :: rest') <:+ rest := by
    apply List.suffix_of_suffix_length_le hsuffix' ((List.suffix_cons head rest).trans hsuffix)
    rw [List.length_cons]
    omega
  have hraw := (getElem?_of_mem_listing (hsuffix.subset List.mem_cons_self)).2.2
  have hraw' := (getElem?_of_mem_listing (hsuffix'.subset List.mem_cons_self)).2.2
  obtain ⟨before, rfl⟩ := hinner
  rw [List.length_append, List.length_cons] at hnumber
  have hblank : head'.isBlank = false := SourceLine.isBlank_of_isCode hcode
  have hinside : before.length < indentSpan (head :: (before ++ head' :: rest')) := by omega
  obtain ⟨hdeeper, hspan⟩ := indentSpan_nested head before rest' hblank hinside
  refine ⟨by omega, head.raw, head'.raw, ?_, ?_, hdeeper⟩
  · rw [hline, hraw]
  · rw [hline', hraw']

/-- There is one block for each line. -/
theorem endLine_eq (h : e.IsIndented (listing style text)) (h' : e'.IsIndented (listing style text))
    (heq : e.line = e'.line) : e.endLine = e'.endLine := by
  obtain ⟨head, rest, hsuffix, -, hline, hend⟩ := h
  obtain ⟨head', rest', hsuffix', -, hline', hend'⟩ := h'
  have hnumber : head.number = head'.number := by omega
  have hsame : head :: rest = head' :: rest' := by
    rw [← drop_number_of_suffix hsuffix, ← drop_number_of_suffix hsuffix', hnumber]
  rw [hend, hend', hnumber, hsame]

/-- Of two entries, the one that does not begin first is apart from the other or lies in it. -/
theorem apart_or_covers (h : e.IsIndented (listing style text))
    (h' : e'.IsIndented (listing style text)) (hle : e.line ≤ e'.line) :
    (∀ n, ¬ (e.Covers n ∧ e'.Covers n)) ∨ ∀ n, e'.Covers n → e.Covers n := by
  by_cases hinside : e'.line ≤ e.endLine
  · right
    have hend : e'.endLine ≤ e.endLine := by
      rcases Nat.lt_or_eq_of_le hle with hlt | heq
      · exact (h.nested h' hlt hinside).1
      · exact Nat.le_of_eq (h.endLine_eq h' heq).symm
    rintro n ⟨hfirst, hlast⟩
    exact ⟨by omega, by omega⟩
  · left
    rintro n ⟨⟨-, hlast⟩, hfirst, -⟩
    omega

end IsIndented

end Entry

/-! ### Python -/

namespace Outline

/-- The entries of an outline that is put together come from its parts. -/
theorem exists_mem_entries_of_concat {parts : List Outline} {e : Entry}
    (he : e ∈ (concat parts).withMethodCounts.entries) : ∃ o ∈ parts, e ∈ o.entries := by
  have hfunctions : (concat parts).withMethodCounts.functions = (concat parts).functions := rfl
  unfold entries at he
  rw [hfunctions, map_entry_classes_withMethodCounts, map_entry_functions_concat,
    map_entry_classes_concat] at he
  rcases List.mem_append.1 he with he | he
  · obtain ⟨o, ho, he⟩ := List.mem_flatMap.1 he
    exact ⟨o, ho, List.mem_append_left _ he⟩
  · obtain ⟨o, ho, he⟩ := List.mem_flatMap.1 he
    exact ⟨o, ho, List.mem_append_right _ he⟩

end Outline

namespace Python

/-- A line that declares a function or class declares it over its indented block. -/
theorem endLine_of_mem_lineOutline (head : SourceLine) (rest : List SourceLine) :
    ∀ e ∈ (lineOutline head (head :: rest)).entries,
      e.line = head.number ∧ e.endLine = head.number + indentSpan (head :: rest) := by
  intro e he
  unfold lineOutline at he
  split at he
  · cases List.mem_singleton.1 he
    exact ⟨rfl, rfl⟩
  · split at he
    · cases List.mem_singleton.1 he
      exact ⟨rfl, rfl⟩
    · split at he
      · exact absurd he List.not_mem_nil
      · split at he <;> exact absurd he List.not_mem_nil

theorem isIndented_of_mem_outline {text : List Char} {e : Entry}
    (he : e ∈ (outline text).entries) : e.IsIndented (listing .hashes text) := by
  obtain ⟨o, ho, he⟩ := Outline.exists_mem_entries_of_concat he
  obtain ⟨head, rest, hsuffix, hcode, rfl⟩ := exists_suffix_of_mem_eachCode ho
  exact ⟨head, rest, hsuffix, hcode, endLine_of_mem_lineOutline head rest e he⟩

/-- **Functions and classes of Python are apart or lie in each other**, for every text. None of them
is empty, and no two of them have some lines in common and not all lines of one of them. The first
line of one that begins inside another is indented deeper than the first line of the other. -/
theorem entries_apart_or_nested (text : List Char) (e e' : Entry)
    (he : e ∈ (Language.python.analyzer.outline text).entries)
    (he' : e' ∈ (Language.python.analyzer.outline text).entries) :
    e.Covers e.line ∧
    ((∀ n, ¬ (e.Covers n ∧ e'.Covers n)) ∨ (∀ n, e'.Covers n → e.Covers n) ∨
      ∀ n, e.Covers n → e'.Covers n) ∧
    (e.line < e'.line → e'.line ≤ e.endLine →
      ∃ raw raw', (Text.lines text)[e.line - 1]? = some raw ∧
        (Text.lines text)[e'.line - 1]? = some raw' ∧ indentation raw < indentation raw') := by
  have h := isIndented_of_mem_outline he
  have h' := isIndented_of_mem_outline he'
  refine ⟨?_, ?_, fun hlt hle => (h.nested h' hlt hle).2⟩
  · obtain ⟨head, rest, -, -, hline, hend⟩ := h
    exact ⟨Nat.le_refl _, by omega⟩
  · rcases Nat.le_total e.line e'.line with hle | hle
    · rcases h.apart_or_covers h' hle with hapart | hcovers
      · exact .inl hapart
      · exact .inr (.inl hcovers)
    · rcases h'.apart_or_covers h hle with hapart | hcovers
      · exact .inl fun n hn => hapart n hn.symm
      · exact .inr (.inr hcovers)

/-- A function inside a method, indented with tabs. -/
theorem entries_apart_or_nested_helper :
    let text := ("class A:\n\n    def f(self):\n\t\tdef g():\n\t\t\tpass\n        # end\n\n" ++
      "    x = 1\n\ndef h():\n    pass\n").toList
    let o := Language.python.analyzer.outline text
    o.entries = [⟨"f", 3, 6⟩, ⟨"g", 4, 5⟩, ⟨"h", 10, 11⟩, ⟨"A", 1, 8⟩] ∧
    (∀ n, Entry.Covers ⟨"g", 4, 5⟩ n → Entry.Covers ⟨"f", 3, 6⟩ n) ∧
    ∃ raw raw', (Text.lines text)[2]? = some raw ∧ (Text.lines text)[3]? = some raw' ∧
      indentation raw < indentation raw' := by
  intro text o
  have hentries : o.entries = [⟨"f", 3, 6⟩, ⟨"g", 4, 5⟩, ⟨"h", 10, 11⟩, ⟨"A", 1, 8⟩] := by rfl
  have hf : ⟨"f", 3, 6⟩ ∈ o.entries := by simp [hentries]
  have hg : ⟨"g", 4, 5⟩ ∈ o.entries := by simp [hentries]
  obtain ⟨-, hcovers, hdeeper⟩ := entries_apart_or_nested text _ _ hf hg
  refine ⟨hentries, ?_, hdeeper (by decide) (by decide)⟩
  rcases hcovers with hapart | hcovers | hcovers
  · exact absurd ⟨⟨by decide, by decide⟩, by decide, by decide⟩ (hapart 4)
  · exact hcovers
  · exact absurd (hcovers 3 ⟨by decide, by decide⟩).1 (by decide)

end Python

end SourceReview
