import SourceReview.Proofs.Outline.Nesting

/-!
# What cuts an indented block short

The block of a line goes on as long as lines are indented deeper, and every line that is not blank
counts for that: a comment, a line of a docstring, or a line of a signature that is not finished.

So a block reaches a later line of code exactly if the comments before it are indented deeper
(`block_reaches_code_iff`), and a function of Python extends over its whole signature exactly if the
signature is indented deeper than its first line (`Python.span_covers_signature_iff`). A closing
parenthesis at the margin ends the function before its body has begun.
-/

namespace SourceReview

/-! ### Blocks by position -/

section

variable {α : Type} {xs : List α}

theorem drop_eq_cons_of_getElem? {n : Nat} {x : α} (h : xs[n]? = some x) :
    xs.drop n = x :: xs.drop (n + 1) := by
  obtain ⟨hn, rfl⟩ := List.getElem?_eq_some_iff.1 h
  exact List.drop_eq_getElem_cons hn

theorem extract_append {a b c : Nat} (hab : a ≤ b) (hbc : b ≤ c) :
    xs.extract a c = xs.extract a b ++ xs.extract b c := by
  have hcount : c - a = b - a + (c - b) := by omega
  have hposition : a + (b - a) = b := by omega
  simp only [List.extract_eq_take_drop]
  rw [hcount, List.take_add, List.drop_drop, hposition]

theorem extract_succ {a n : Nat} {x : α} (hx : xs[n]? = some x) (han : a ≤ n) :
    xs.extract a (n + 1) = xs.extract a n ++ [x] := by
  have hone : xs.extract n (n + 1) = [x] := by
    have hcount : n + 1 - n = 1 := by omega
    rw [List.extract_eq_take_drop, hcount, drop_eq_cons_of_getElem? hx]
    rfl
  rw [extract_append han (Nat.le_add_right n 1), hone]

end

/-- The block of the line at position `s` reaches a later line that is not blank exactly if all the
lines up to that one, blank ones apart, are indented deeper. -/
theorem le_add_indentSpan_iff {lines : List SourceLine} {s i : Nat} {head last : SourceLine}
    (hhead : lines[s]? = some head) (hlast : lines[i]? = some last) (hlt : s < i)
    (hblank : last.isBlank = false) :
    i ≤ s + indentSpan (lines.drop s) ↔
      ∀ l ∈ lines.extract (s + 1) (i + 1), l.isBlank = false → head.indent < l.indent := by
  have hlength : (lines.extract (s + 1) i).length = i - (s + 1) := by
    obtain ⟨hi, -⟩ := List.getElem?_eq_some_iff.1 hlast
    rw [List.extract_eq_take_drop, List.length_take, List.length_drop]
    omega
  have hlines : lines.drop s = head :: (lines.extract (s + 1) i ++ last :: lines.drop (i + 1)) := by
    have hposition : s + 1 + (i - (s + 1)) = i := by omega
    rw [← drop_eq_cons_of_getElem? hlast, drop_eq_cons_of_getElem? hhead,
      List.extract_eq_take_drop]
    conv => lhs; rw [← List.take_append_drop (i - (s + 1)) (lines.drop (s + 1))]
    rw [List.drop_drop, hposition]
  have hspan : i ≤ s + indentSpan (lines.drop s) ↔
      (lines.extract (s + 1) i).length < indentSpan (lines.drop s) := by omega
  rw [hspan, hlines, lt_indentSpan_iff head _ _ hblank, extract_succ hlast hlt]

/-- A line that is not blank and not indented deeper is not reached. -/
theorem add_indentSpan_lt {lines : List SourceLine} {s k : Nat} {head l : SourceLine}
    (hhead : lines[s]? = some head) (hl : lines[k]? = some l) (hlt : s < k)
    (hblank : l.isBlank = false) (hindent : l.indent ≤ head.indent) :
    s + indentSpan (lines.drop s) < k := by
  have hmem : l ∈ lines.extract (s + 1) (k + 1) := by
    rw [extract_succ hl hlt]
    exact List.mem_append_right _ List.mem_cons_self
  apply Nat.lt_of_not_le
  intro hle
  have := (le_add_indentSpan_iff hhead hl hlt hblank).1 hle l hmem hblank
  omega

/-! ### Comments -/

theorem SourceLine.isBlank_of_isComment {l : SourceLine} (h : l.isComment = true) :
    l.isBlank = false := by
  have hkind : l.kind = .comment := by simpa [isComment] using h
  simp [isBlank, hkind]

theorem SourceLine.isComment_of_not {l : SourceLine} (hblank : l.isBlank = false)
    (hcode : l.isCode = false) : l.isComment = true := by
  have hnotBlank : l.kind ≠ .blank := by simpa [isBlank] using hblank
  have hnotCode : l.kind ≠ .code := by simpa [isCode] using hcode
  cases hkind : l.kind with
  | code => exact absurd hkind hnotCode
  | comment => simp [isComment, hkind]
  | blank => exact absurd hkind hnotBlank

/-- **Comments cut a block short.** If all lines of code up to a line of code are indented deeper
than the line that a block begins with, then the block reaches that line if and only if the comments
up to it are indented deeper as well. A comment that is not indented deeper is never reached. -/
theorem block_reaches_code_iff (text : List Char) (s i : Nat) (head last : SourceLine)
    (hhead : (listing .hashes text)[s]? = some head)
    (hlast : (listing .hashes text)[i]? = some last) (hcode : last.isCode = true) (hlt : s < i)
    (hdeeper : ∀ l ∈ (listing .hashes text).extract (s + 1) (i + 1), l.isCode = true →
      head.indent < l.indent) :
    (i ≤ s + indentSpan ((listing .hashes text).drop s) ↔
      ∀ l ∈ (listing .hashes text).extract (s + 1) (i + 1), l.isComment = true →
        head.indent < l.indent) ∧
    ∀ k l, s < k → (listing .hashes text)[k]? = some l → l.isComment = true →
      l.indent ≤ head.indent → s + indentSpan ((listing .hashes text).drop s) < k := by
  constructor
  · rw [le_add_indentSpan_iff hhead hlast hlt (SourceLine.isBlank_of_isCode hcode)]
    constructor
    · intro h l hl hcomment
      exact h l hl (SourceLine.isBlank_of_isComment hcomment)
    · intro h l hl hblank
      cases hkind : l.isCode with
      | true => exact hdeeper l hl hkind
      | false => exact h l hl (SourceLine.isComment_of_not hblank hkind)
  · intro k l hk hl hcomment hindent
    exact add_indentSpan_lt hhead hl hk (SourceLine.isBlank_of_isComment hcomment) hindent

/-- Comments and a docstring that are indented deeper than the first line, if only a little. -/
theorem block_reaches_code_hanging :
    let text := "def f():\n  \"\"\" a\n b\n\n \"\"\"\n\tx = 1\n # c\n  return x\n".toList
    ∃ head last, (listing .hashes text)[0]? = some head ∧
      (listing .hashes text)[7]? = some last ∧ last.isCode = true ∧
      (∀ l ∈ (listing .hashes text).extract 1 8, l.isCode = true → head.indent < l.indent) ∧
      (∀ l ∈ (listing .hashes text).extract 1 8, l.isComment = true → head.indent < l.indent) ∧
      7 ≤ 0 + indentSpan ((listing .hashes text).drop 0) := by
  intro text
  refine ⟨_, _, rfl, rfl, by decide, by decide, by decide, ?_⟩
  exact (block_reaches_code_iff text 0 7 _ _ rfl rfl (by decide) (by decide) (by decide)).1.2
    (by decide)

/-- A comment at the margin ends the block, and the code after it does not belong to it. -/
theorem block_reaches_code_flush :
    let text := "def f():\n    x = 1\n# c\n    return x\n".toList
    ∃ head last, (listing .hashes text)[0]? = some head ∧ head.isCode = true ∧
      (listing .hashes text)[3]? = some last ∧ last.isCode = true ∧
      (∀ l ∈ (listing .hashes text).extract 1 4, l.isCode = true → head.indent < l.indent) ∧
      ¬ 3 ≤ 0 + indentSpan ((listing .hashes text).drop 0) :=
  ⟨_, _, rfl, by decide, rfl, by decide, by decide, by decide⟩

/-! ### Signatures -/

/-- The brackets that a text opens, less those that it closes. -/
def bracketBalance : List Char → Int
  | [] => 0
  | c :: cs =>
    (if c = '(' ∨ c = '[' ∨ c = '\x7b' then 1
      else if c = ')' ∨ c = ']' ∨ c = '\x7d' then -1 else 0) + bracketBalance cs

/-- The brackets that are open after the lines with the numbers from `first` to `last`. -/
def openBrackets (lines : List SourceLine) (first last : Nat) : Int :=
  bracketBalance ((lines.extract (first - 1) last).flatMap (·.code))

/-- Line `first` leaves brackets open. They are closed again in line `last`, at its end or before,
and at the end of no earlier line. -/
structure ClosesIn (lines : List SourceLine) (first last : Nat) : Prop where
  lt : first < last
  opened : 0 < openBrackets lines first first
  still_open : ∀ n < last, first ≤ n → openBrackets lines first n ≠ 0
  closed : ∃ l, lines[last - 1]? = some l ∧
    ∃ part, part <+: l.code ∧ openBrackets lines first (last - 1) + bracketBalance part = 0

theorem code_readOutside_of_blank (style : CommentStyle) (raw : List Char) :
    (readOutside style raw).kind = .blank → (readOutside style raw).code = [] := by
  unfold readOutside
  dsimp only
  split
  · exact fun _ => rfl
  · split
    · exact fun _ => rfl
    · split
      · split
        · -- What is left after a comment is a comment or code.
          split <;> exact fun h => nomatch h
        · exact fun _ => rfl
      · exact fun h => nomatch h

/-- A blank line has no code. -/
theorem code_of_isBlank {style : CommentStyle} {text : List Char} {l : SourceLine}
    (h : l ∈ listing style text) (hblank : l.isBlank = true) : l.code = [] := by
  obtain ⟨n, hn⟩ := List.mem_iff_getElem?.1 h
  unfold listing at hn
  rw [getElem?_listLines] at hn
  obtain ⟨raw, -, rfl⟩ := Option.map_eq_some_iff.1 hn
  cases hopen : openAfter style none ((Text.lines text).take n) with
  | some closing => rfl
  | none =>
    apply code_readOutside_of_blank
    simpa [SourceLine.isBlank, hopen, readLine] using hblank

/-- The line in which brackets are closed is not blank. -/
theorem ClosesIn.exists_line {style : CommentStyle} {text : List Char} {first last : Nat}
    (h : ClosesIn (listing style text) first last) :
    ∃ l, (listing style text)[last - 1]? = some l ∧ l.isBlank = false := by
  obtain ⟨l, hl, part, hpart, hzero⟩ := h.closed
  refine ⟨l, hl, ?_⟩
  have hlt := h.lt
  have hopen := h.still_open (last - 1) (by omega) (by omega)
  rw [Bool.eq_false_iff]
  intro hblank
  -- A blank line has no code, so the brackets would have been closed before it.
  rw [code_of_isBlank (List.mem_of_getElem? hl) hblank, List.prefix_nil] at hpart
  rw [hpart] at hzero
  have hnil : bracketBalance [] = 0 := rfl
  omega

namespace Python

theorem endLine_of_mem_functions {text : List Char} {f : FunctionEntry}
    (hf : f ∈ (outline text).functions) :
    1 ≤ f.line ∧ f.endLine = f.line + indentSpan ((listing .hashes text).drop (f.line - 1)) := by
  have hentry : f.entry ∈ (outline text).entries :=
    List.mem_append_left _ (List.mem_map_of_mem hf)
  obtain ⟨head, rest, hsuffix, -, hline, hend⟩ := isIndented_of_mem_outline hentry
  have hhead := getElem?_of_mem_listing (hsuffix.subset List.mem_cons_self)
  have hlines := drop_number_of_suffix hsuffix
  have hnumber : f.line = head.number := hline
  rw [hnumber, hlines]
  exact ⟨hhead.1, hend⟩

section

variable {text : List Char} {f : FunctionEntry} (hf : f ∈ (outline text).functions)
  {head l : SourceLine} {n : Nat} (hhead : (listing .hashes text)[f.line - 1]? = some head)
  (hl : (listing .hashes text)[n - 1]? = some l) (hlt : f.line < n) (hblank : l.isBlank = false)
include hf hhead hl hlt hblank

/-- A function reaches a line that is not blank exactly if the lines after its first line and up to
that one, blank ones apart, are indented deeper. -/
theorem le_endLine_iff : n ≤ f.endLine ↔
    ∀ k ∈ (listing .hashes text).extract f.line n, k.isBlank = false → head.indent < k.indent := by
  obtain ⟨hpos, hend⟩ := endLine_of_mem_functions hf
  have hiff := le_add_indentSpan_iff hhead hl (by omega) hblank
  have hfirst : f.line - 1 + 1 = f.line := by omega
  have hlast : n - 1 + 1 = n := by omega
  rw [hfirst, hlast] at hiff
  rw [← hiff, hend]
  omega

theorem endLine_lt (hindent : l.indent ≤ head.indent) : f.endLine < n := by
  obtain ⟨hpos, hend⟩ := endLine_of_mem_functions hf
  have := add_indentSpan_lt hhead hl (by omega) hblank hindent
  omega

end

/-- **A function extends over its signature exactly if that is indented deeper.** If the first line
of a function leaves brackets open and they are closed in line `m`, then the function reaches line
`m` if and only if every line of the signature after the first is indented deeper than the first,
blank lines apart. The same holds for the first line of the body. Otherwise the function ends before
the first line of the signature that is not indented deeper. -/
theorem span_covers_signature_iff (text : List Char) (f : FunctionEntry)
    (hf : f ∈ (Language.python.analyzer.outline text).functions) (head : SourceLine)
    (hhead : (listing .hashes text)[f.line - 1]? = some head) (m : Nat)
    (hcloses : ClosesIn (listing .hashes text) f.line m) :
    (m ≤ f.endLine ↔
      ∀ l ∈ (listing .hashes text).extract f.line m, l.isBlank = false →
        head.indent < l.indent) ∧
    (∀ n body, m < n → (listing .hashes text)[n - 1]? = some body → body.isBlank = false →
      (∀ l ∈ (listing .hashes text).extract m (n - 1), l.isBlank = true) →
      head.indent < body.indent →
      (n ≤ f.endLine ↔
        ∀ l ∈ (listing .hashes text).extract f.line m, l.isBlank = false →
          head.indent < l.indent)) ∧
    ∀ n l, f.line < n → n ≤ m → (listing .hashes text)[n - 1]? = some l → l.isBlank = false →
      l.indent ≤ head.indent → f.endLine < n := by
  have hlt := hcloses.lt
  obtain ⟨last, hlast, hlastBlank⟩ := hcloses.exists_line
  refine ⟨le_endLine_iff hf hhead hlast hlt hlastBlank, ?_, ?_⟩
  · intro n body hmn hbody hbodyBlank hbetween hdeeper
    rw [le_endLine_iff hf hhead hbody (by omega) hbodyBlank]
    -- The lines up to the body: those of the signature, blank lines, and its first line.
    have hlines : (listing .hashes text).extract f.line n
        = (listing .hashes text).extract f.line m
          ++ ((listing .hashes text).extract m (n - 1) ++ [body]) := by
      have hlast : n - 1 + 1 = n := by omega
      rw [← extract_succ hbody (by omega), hlast, ← extract_append (by omega) (by omega)]
    rw [hlines]
    constructor
    · intro h l hl
      exact h l (List.mem_append_left _ hl)
    · intro h l hl hblank
      rcases List.mem_append.1 hl with hl | hl
      · exact h l hl hblank
      · rcases List.mem_append.1 hl with hl | hl
        · rw [hbetween l hl] at hblank
          cases hblank
        · cases List.mem_singleton.1 hl
          exact hdeeper
  · intro n l hn _ hl hblank hindent
    exact endLine_lt hf hhead hl hn hblank hindent

/-- A signature over four lines, indented deeper than its first line, with a comment and a blank
line. -/
theorem span_covers_signature_hanging :
    let text := "def f(\n  a,  # (\n\n  b=[1,\n 2]) -> str:\n\n    return a\n".toList
    let f : FunctionEntry := ⟨"f", 1, 7, 2, 1, false⟩
    ∃ head body, f ∈ (Language.python.analyzer.outline text).functions ∧
      (listing .hashes text)[f.line - 1]? = some head ∧ ClosesIn (listing .hashes text) f.line 5 ∧
      (listing .hashes text)[6]? = some body ∧ body.isBlank = false ∧
      (∀ l ∈ (listing .hashes text).extract f.line 5, l.isBlank = false →
        head.indent < l.indent) ∧
      5 ≤ f.endLine ∧ 7 ≤ f.endLine := by
  intro text f
  have hf : f ∈ (Language.python.analyzer.outline text).functions := by decide
  have hcloses : ClosesIn (listing .hashes text) f.line 5 :=
    ⟨by decide, by decide, by decide, _, rfl, _, List.prefix_refl _, by decide⟩
  obtain ⟨hsignature, hbody, -⟩ := span_covers_signature_iff text f hf _ rfl 5 hcloses
  exact ⟨_, _, hf, rfl, hcloses, rfl, by decide, by decide, hsignature.2 (by decide),
    (hbody 7 _ (by decide) rfl (by decide) (by decide) (by decide)).2 (by decide)⟩

/-- If the closing parenthesis stands at the margin, the body does not belong to the function. -/
theorem span_covers_signature_flush :
    let text := "def f(\n    a,\n):\n    return a\n".toList
    ∃ f head body, f ∈ (Language.python.analyzer.outline text).functions ∧
      (listing .hashes text)[f.line - 1]? = some head ∧ ClosesIn (listing .hashes text) f.line 3 ∧
      (listing .hashes text)[3]? = some body ∧ body.isBlank = false ∧
      head.indent < body.indent ∧ ¬ 3 ≤ f.endLine ∧ ¬ 4 ≤ f.endLine :=
  ⟨⟨"f", 1, 2, 1, 1, false⟩, _, _, by decide, rfl,
    ⟨by decide, by decide, by decide, _, rfl, _, List.prefix_refl _, by decide⟩,
    rfl, by decide, by decide, by decide, by decide⟩

end Python

end SourceReview
