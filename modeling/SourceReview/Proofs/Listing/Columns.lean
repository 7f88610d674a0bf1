import Mathlib.Data.List.Forall2
import SourceReview.Language.Known
import SourceReview.Proofs.Listing.Bounds

/-!
# Columns of the code

A rule finds its matches in the code of a line and reports the columns that they have there. The
code is made of pieces of the raw line (`SourceLine.Cut`): a character that is kept, a character that
is blanked, or a whole comment that the line closes again. Each piece gives one character of the
code, so a character moves to the left by what the comments before it take up beyond that. Its
column in the code is its column in the raw line just if no comment comes before it in the line
(`columns_of_code`).
-/

namespace SourceReview

/-- The text begins and ends with the marks. -/
def BlockMark.Encloses (mark : BlockMark) (cs : List Char) : Prop :=
  ∃ inside, cs = mark.opening ++ (inside ++ mark.closing)

/-- The text is a comment between the marks, perhaps with blanks around it. -/
def BlockMark.IsLead (mark : BlockMark) (cs : List Char) : Prop :=
  ∃ before comment after, cs = before ++ (comment ++ after) ∧ mark.Encloses comment ∧
    (∀ c ∈ before, Text.isBlank c = true) ∧ ∀ c ∈ after, Text.isBlank c = true

namespace CommentStyle

/-- Neither mark of a block comment is empty. -/
def HasMarks (style : CommentStyle) : Prop :=
  ∀ mark ∈ style.block, mark.opening ≠ [] ∧ mark.closing ≠ []

/-- The text is a block comment that may stand in the middle of a line. -/
def IsInlineBlock (style : CommentStyle) (cs : List Char) : Prop :=
  ∃ mark ∈ style.block, mark.opening ≠ mark.closing ∧ mark.Encloses cs

/-- No mark that opens a block comment in the middle of a line begins before a position. -/
def OpensNoneBefore (style : CommentStyle) (raw : List Char) (k : Nat) : Prop :=
  ∀ j < k, ∀ mark ∈ style.block, mark.opening ≠ mark.closing → ¬ mark.opening <+: raw.drop j

/-- The character of the code that a piece of the raw line gives. -/
inductive Shows (style : CommentStyle) : List Char → Char → Prop
  | kept (c : Char) : Shows style [c] c
  | blanked (c : Char) : Shows style [c] ' '
  | comment {piece : List Char} (h : style.IsInlineBlock piece) : Shows style piece ' '

/-- The code is what pieces at the beginning of the text give. -/
def Renders (style : CommentStyle) (cs code : List Char) : Prop :=
  ∃ pieces rest, cs = pieces.flatten ++ rest ∧ List.Forall₂ style.Shows pieces code

end CommentStyle

/-- A raw line, cut into what the code leaves out at the beginning, the pieces that it shows, and
what it leaves out at the end. -/
structure SourceLine.Cut (style : CommentStyle) (l : SourceLine) where
  lead : List Char
  pieces : List (List Char)
  rest : List Char
  raw_eq : l.raw = lead ++ (pieces.flatten ++ rest)
  shows : List.Forall₂ style.Shows pieces l.code
  lead_eq : lead = [] ∨ ∃ mark, style.blockAt? (Text.trim l.raw) = some mark ∧ mark.IsLead lead

namespace SourceLine.Cut

variable {style : CommentStyle} {l : SourceLine}

/-- The position in the raw line of the character at a position of the code. -/
def column (cut : l.Cut style) (k : Nat) : Nat :=
  cut.lead.length + (cut.pieces.take k).flatten.length

/-- No comment comes before a position of the code. -/
def IsClearBefore (cut : l.Cut style) (k : Nat) : Prop :=
  cut.lead = [] ∧ ∀ piece ∈ cut.pieces.take k, ¬ style.IsInlineBlock piece

end SourceLine.Cut

/-! ### The pieces that masking takes -/

section Masking

variable {style : CommentStyle}

theorem BlockMark.Encloses.two_le_length {mark : BlockMark} {cs : List Char}
    (h : mark.Encloses cs) (hopening : mark.opening ≠ []) (hclosing : mark.closing ≠ []) :
    2 ≤ cs.length := by
  obtain ⟨inside, rfl⟩ := h
  have hfirst := List.length_pos_iff.2 hopening
  have hlast := List.length_pos_iff.2 hclosing
  simp only [List.length_append]
  omega

theorem CommentStyle.Renders.nil (cs : List Char) : style.Renders cs [] :=
  ⟨[], cs, rfl, .nil⟩

theorem CommentStyle.Renders.cons {piece cs code : List Char} {c : Char}
    (hc : style.Shows piece c) (h : style.Renders cs code) :
    style.Renders (piece ++ cs) (c :: code) := by
  obtain ⟨pieces, rest, rfl, hshows⟩ := h
  exact ⟨piece :: pieces, rest, by simp, .cons hc hshows⟩

theorem CommentStyle.Renders.append {cs code : List Char} (h : style.Renders cs code)
    (trail : List Char) : style.Renders (cs ++ trail) code := by
  obtain ⟨pieces, rest, rfl, hshows⟩ := h
  exact ⟨pieces, rest ++ trail, List.append_assoc .., hshows⟩

theorem exists_of_inlineBlockAt? {mark : BlockMark} {cs : List Char}
    (h : style.inlineBlockAt? cs = some mark) :
    mark ∈ style.block ∧ mark.opening ≠ mark.closing ∧ mark.opening <+: cs := by
  have hfound := List.find?_some h
  rw [Bool.and_eq_true, Text.startsWith_iff] at hfound
  exact ⟨List.mem_of_find?_eq_some h, by simpa using hfound.1, hfound.2⟩

theorem opening_prefix_of_blockAt? {mark : BlockMark} {cs : List Char}
    (h : style.blockAt? cs = some mark) : mark.opening <+: cs :=
  Text.startsWith_iff.1 (List.find?_some h :)

/-- A comment that is closed in a line is what the line begins with, up to its length. -/
theorem exists_of_closedLength? {mark : BlockMark} {cs : List Char} {length : Nat}
    (hopening : mark.opening <+: cs) (h : closedLength? mark cs = some length) :
    ∃ comment rest, cs = comment ++ rest ∧ comment.length = length ∧ mark.Encloses comment := by
  obtain ⟨tail, rfl⟩ := hopening
  obtain ⟨⟨inside, rest⟩, hsplit, rfl⟩ := Option.map_eq_some_iff.1 h
  rw [List.drop_left] at hsplit
  have htail := Text.eq_of_splitFirst_eq_some hsplit
  refine ⟨mark.opening ++ (inside ++ mark.closing), rest, ?_, ?_, inside, rfl⟩
  · rw [htail]
    simp
  · simp only [List.length_append]
    omega

/-- What is left to read in a state. -/
def MaskState.remaining : MaskState → List Char → List Char
  | .code skip, cs => cs.drop skip
  | .quotation _ _, cs => cs

theorem renders_maskFrom (hstyle : style.HasMarks) (state : MaskState) (cs : List Char) :
    style.Renders (state.remaining cs) (maskFrom style state cs).code := by
  fun_induction maskFrom style state cs with
  | case1 => exact .nil _
  | case2 mark c cs ih => exact .cons (.blanked c) ih
  | case3 mark cs ih => exact .cons (.blanked _) ih
  | case4 mark cs _ ih => exact .cons (.kept _) ih
  | case5 mark c cs _ _ ih => exact .cons (.blanked c) ih
  | case6 skip c cs ih => exact ih
  | case7 c cs _ ih => exact .cons (.kept c) ih
  | case8 c cs => exact .nil _
  | case9 c cs _ _ _ ih => exact .cons (.kept c) ih
  | case10 c cs _ _ mark hinline length hlength ih =>
    obtain ⟨hmark, hdiffers, hopening⟩ := exists_of_inlineBlockAt? hinline
    obtain ⟨comment, rest, hcs, hcomment, hencloses⟩ := exists_of_closedLength? hopening hlength
    -- The next step begins after the first character, with the others of the comment to skip.
    have hrest : cs.drop (length - 1) = rest := by
      have htwo := hencloses.two_le_length (hstyle mark hmark).1 (hstyle mark hmark).2
      obtain ⟨n, rfl⟩ : ∃ n, length = n + 1 := ⟨length - 1, by omega⟩
      rw [Nat.add_sub_cancel, ← List.drop_succ_cons, hcs, ← hcomment, List.drop_left]
    have hread : MaskState.remaining (.code (length - 1)) cs = rest := hrest
    have hwhole : MaskState.remaining (.code 0) (c :: cs) = comment ++ rest := hcs
    rw [hread] at ih
    rw [hwhole]
    exact .cons (.comment ⟨mark, hmark, hdiffers, hencloses⟩) ih
  | case11 c cs => exact .nil _

theorem renders_mask (hstyle : style.HasMarks) (cs : List Char) :
    style.Renders cs (mask style cs).code :=
  renders_maskFrom hstyle (.code 0) cs

/-- A line that is read outside of comments shows what stands in it after a block comment, or all
of it. -/
theorem exists_lead_of_readOutside (hstyle : style.HasMarks) (raw : List Char) :
    ∃ lead rest, raw = lead ++ rest ∧
      (lead = [] ∨ ∃ mark, style.blockAt? (Text.trim raw) = some mark ∧ mark.IsLead lead) ∧
      style.Renders rest (readOutside style raw).code := by
  unfold readOutside
  dsimp only
  split
  · exact ⟨[], raw, rfl, .inl rfl, .nil _⟩
  · split
    · exact ⟨[], raw, rfl, .inl rfl, .nil _⟩
    · split
      · rename_i mark hmark
        split
        · rename_i inside rest hsplit
          obtain ⟨before, trail, hraw, hbefore, -⟩ := Text.exists_eq_trim raw
          obtain ⟨after, trail', hrest, hafter, -⟩ := Text.exists_eq_trim rest
          obtain ⟨tail, htail⟩ := opening_prefix_of_blockAt? hmark
          rw [← htail, List.drop_left] at hsplit
          have hinside := Text.eq_of_splitFirst_eq_some hsplit
          refine ⟨before ++ (mark.opening ++ (inside ++ mark.closing) ++ after),
            Text.trim rest ++ (trail' ++ trail), ?_, .inr ?_, ?_⟩
          · rw [hraw, ← htail, hinside]
            conv => lhs; rw [hrest]
            simp
          · exact ⟨mark, hmark, before, _, after, rfl, ⟨inside, rfl⟩, hbefore, hafter⟩
          · exact (renders_mask hstyle (Text.trim rest)).append _
        · exact ⟨[], raw, rfl, .inl rfl, .nil _⟩
      · exact ⟨[], raw, rfl, .inl rfl, renders_mask hstyle raw⟩

/-- Every line of a listing has a cut. -/
theorem nonempty_cut (hstyle : style.HasMarks) {text : List Char} {l : SourceLine}
    (hl : l ∈ listing style text) : Nonempty (l.Cut style) := by
  obtain ⟨s, hs⟩ := List.mem_iff_getElem?.1 hl
  unfold listing at hs
  rw [getElem?_listLines] at hs
  obtain ⟨raw, -, rfl⟩ := Option.map_eq_some_iff.1 hs
  generalize openAfter style none ((Text.lines text).take s) = opens
  cases opens with
  | some closing => exact ⟨[], [], raw, rfl, .nil, .inl rfl⟩
  | none =>
    obtain ⟨lead, _, hraw, hlead, pieces, rest, rfl, hshows⟩ :=
      exists_lead_of_readOutside hstyle raw
    exact ⟨lead, pieces, rest, hraw, hshows, hlead⟩

end Masking

/-! ### Columns -/

namespace CommentStyle

variable {style : CommentStyle} {pieces : List (List Char)} {code : List Char}

theorem Shows.eq_of_ne {piece : List Char} {c : Char} (h : style.Shows piece c) (hc : c ≠ ' ') :
    piece = [c] := by
  cases h with
  | kept => rfl
  | blanked d => exact absurd rfl hc
  | comment hblock => exact absurd rfl hc

/-- A piece is one character or a comment, which is longer. -/
theorem Shows.length_cases (hstyle : style.HasMarks) {piece : List Char} {c : Char}
    (h : style.Shows piece c) :
    (piece.length = 1 ∧ ¬ style.IsInlineBlock piece) ∨
      (2 ≤ piece.length ∧ style.IsInlineBlock piece) := by
  have hlong : ∀ cs, style.IsInlineBlock cs → 2 ≤ cs.length := by
    rintro cs ⟨mark, hmark, -, hencloses⟩
    exact hencloses.two_le_length (hstyle mark hmark).1 (hstyle mark hmark).2
  cases h with
  | kept | blanked d =>
    refine .inl ⟨rfl, ?_⟩
    intro hblock
    exact absurd (hlong _ hblock) (by simp)
  | comment hblock => exact .inr ⟨hlong _ hblock, hblock⟩

/-- Pieces are at least as long as what they give, and just as long if none is a comment. -/
theorem length_flatten_of_shows (hstyle : style.HasMarks)
    (h : List.Forall₂ style.Shows pieces code) :
    code.length ≤ pieces.flatten.length ∧
      (pieces.flatten.length = code.length ↔ ∀ piece ∈ pieces, ¬ style.IsInlineBlock piece) := by
  induction h with
  | nil => simp
  | @cons piece c pieces code hc _ ih =>
    obtain ⟨hle, hiff⟩ := ih
    rw [List.flatten_cons, List.length_append, List.length_cons, List.forall_mem_cons, ← hiff]
    rcases hc.length_cases hstyle with ⟨hone, hblock⟩ | ⟨htwo, hblock⟩
    · simp only [hblock, not_false_iff, true_and]
      omega
    · simp only [hblock, not_true, false_and, iff_false]
      omega

/-- Where no mark opens a comment, no piece is a comment. -/
theorem not_isInlineBlock_of_opensNoneBefore (hstyle : style.HasMarks)
    (h : List.Forall₂ style.Shows pieces code) {rest : List Char}
    (hopens : style.OpensNoneBefore (pieces.flatten ++ rest) pieces.length) :
    ∀ piece ∈ pieces, ¬ style.IsInlineBlock piece := by
  induction h with
  | nil => simp
  | @cons piece c pieces code hc _ ih =>
    rw [List.flatten_cons, List.append_assoc] at hopens
    have hfirst : ¬ style.IsInlineBlock piece := by
      rintro ⟨mark, hmark, hdiffers, inside, rfl⟩
      apply hopens 0 (Nat.succ_pos _) mark hmark hdiffers
      rw [List.drop_zero, List.append_assoc]
      exact List.prefix_append _ _
    rw [List.forall_mem_cons]
    refine ⟨hfirst, ih ?_⟩
    -- The first piece is a single character, so the positions after it move by one.
    obtain ⟨hone, -⟩ := (hc.length_cases hstyle).resolve_right fun h => hfirst h.2
    intro j hj mark hmark hdiffers hprefix
    refine hopens (j + 1) (Nat.succ_lt_succ hj) mark hmark hdiffers ?_
    rw [List.drop_append, List.drop_of_length_le (by omega), List.nil_append, hone,
      Nat.add_sub_cancel]
    exact hprefix

/-- A character of the code that is no space stands after the pieces before its own. -/
theorem getElem?_flatten_of_shows (h : List.Forall₂ style.Shows pieces code) {k : Nat} {c : Char}
    (hk : code[k]? = some c) (hc : c ≠ ' ') :
    pieces.flatten[(pieces.take k).flatten.length]? = some c := by
  induction h generalizing k with
  | nil => simp at hk
  | @cons piece d pieces code hd _ ih =>
    cases k with
    | zero =>
      cases hk
      rw [hd.eq_of_ne hc]
      rfl
    | succ k =>
      rw [List.take_succ_cons, List.flatten_cons, List.flatten_cons, List.length_append,
        List.getElem?_append_right (Nat.le_add_right _ _), Nat.add_sub_cancel_left]
      exact ih hk

end CommentStyle

namespace SourceLine.Cut

variable {style : CommentStyle} {l : SourceLine} (cut : l.Cut style) {k : Nat} {c : Char}

theorem getElem?_column (hk : l.code[k]? = some c) (hc : c ≠ ' ') :
    l.raw[cut.column k]? = some c := by
  have hpieces := CommentStyle.getElem?_flatten_of_shows cut.shows hk hc
  unfold column
  rw [cut.raw_eq, List.getElem?_append_right (Nat.le_add_right _ _), Nat.add_sub_cancel_left]
  obtain ⟨hlt, -⟩ := List.getElem?_eq_some_iff.1 hpieces
  rw [List.getElem?_append_left hlt, hpieces]

/-- The column in the raw line is not before that in the code, and the same just if no comment comes
before. -/
theorem column_spec (hstyle : style.HasMarks) (hk : k ≤ l.code.length) :
    k ≤ cut.column k ∧ (cut.column k = k ↔ cut.IsClearBefore k) := by
  obtain ⟨hle, hiff⟩ :=
    CommentStyle.length_flatten_of_shows hstyle (List.forall₂_take k cut.shows)
  rw [List.length_take, Nat.min_eq_left hk] at hle hiff
  unfold column IsClearBefore
  refine ⟨by omega, ?_⟩
  rw [← hiff, ← List.length_eq_zero_iff]
  omega

/-- In a line that does not begin with a comment, it is enough that no mark opens one. -/
theorem isClearBefore_of_opensNoneBefore (hstyle : style.HasMarks) (hk : k ≤ l.code.length)
    (hbegins : style.blockAt? (Text.trim l.raw) = none) (hopens : style.OpensNoneBefore l.raw k) :
    cut.IsClearBefore k := by
  have hlead : cut.lead = [] := by
    rcases cut.lead_eq with hlead | ⟨mark, hmark, -⟩
    · exact hlead
    · rw [hbegins] at hmark
      cases hmark
  refine ⟨hlead, ?_⟩
  have hraw : l.raw
      = (cut.pieces.take k).flatten ++ ((cut.pieces.drop k).flatten ++ cut.rest) := by
    rw [cut.raw_eq, hlead, List.nil_append, ← List.append_assoc, ← List.flatten_append,
      List.take_append_drop]
  have hlength : (cut.pieces.take k).length = k := by
    rw [List.length_take, cut.shows.length_eq]
    omega
  have hpieces : style.OpensNoneBefore
      ((cut.pieces.take k).flatten ++ ((cut.pieces.drop k).flatten ++ cut.rest))
      (cut.pieces.take k).length := by
    rw [← hraw, hlength]
    exact hopens
  exact CommentStyle.not_isInlineBlock_of_opensNoneBefore hstyle (List.forall₂_take k cut.shows)
    hpieces

end SourceLine.Cut

theorem CommentStyle.hasMarks_known :
    ∀ style ∈ [CommentStyle.slashes, .hashes, .slashesAndHashes], style.HasMarks := by
  unfold CommentStyle.HasMarks
  decide

/-- An issue of a pattern stands in a line of code, at the column where a match begins. -/
theorem exists_of_mem_patternIssues {rule : String} {pattern : Pattern}
    {verdict : SourceLine → List Char → Option Verdict} {lines : List SourceLine} {i : Issue}
    (h : i ∈ Rule.patternIssues rule pattern verdict lines) :
    ∃ l ∈ codeLines lines, ∃ m ∈ pattern.scan l.code,
      i.line = l.number ∧ i.column = some (m.span.start + 1) := by
  obtain ⟨l, hl, hi⟩ := List.mem_flatMap.1 h
  obtain ⟨m, hm, hverdict⟩ := List.mem_filterMap.1 hi
  obtain ⟨v, -, rfl⟩ := Option.map_eq_some_iff.1 hverdict
  exact ⟨l, hl, m, hm, rfl, rfl⟩

/-- **Where the code of a line stands in the raw line**, for every text. A character of the code that
is no space stands in the raw line after the pieces that come before it. Its column there is not
before its column in the code, and the two are the same if and only if no block comment comes before
it in the line; for that it is enough that the line does not begin with a block comment and that no
mark before it opens one. So the column that is reported for a match is that of its first character
in the raw line if and only if no block comment comes before the match. -/
theorem columns_of_code (style : CommentStyle)
    (hstyle : style ∈ [CommentStyle.slashes, .hashes, .slashesAndHashes]) (text : List Char) :
    (∀ l ∈ codeLines (listing style text), ∃ cut : l.Cut style,
      ∀ k c, l.code[k]? = some c → c ≠ ' ' →
        l.raw[cut.column k]? = some c ∧ k ≤ cut.column k ∧
        (cut.column k = k ↔ cut.IsClearBefore k) ∧
        (style.blockAt? (Text.trim l.raw) = none → style.OpensNoneBefore l.raw k →
          cut.IsClearBefore k)) ∧
    ∀ rule pattern verdict, ∀ i ∈ Rule.patternIssues rule pattern verdict (listing style text),
      ∃ l ∈ codeLines (listing style text), ∃ cut : l.Cut style, ∃ m ∈ pattern.scan l.code,
        i.line = l.number ∧
        ∀ c, l.code[m.span.start]? = some c → c ≠ ' ' →
          l.raw[cut.column m.span.start]? = some c ∧
          (i.column = some (cut.column m.span.start + 1) ↔ cut.IsClearBefore m.span.start) := by
  have hmarks := CommentStyle.hasMarks_known style hstyle
  constructor
  · intro l hl
    obtain ⟨cut⟩ := nonempty_cut hmarks (List.mem_filter.1 hl).1
    refine ⟨cut, ?_⟩
    intro k c hk hc
    obtain ⟨hlt, -⟩ := List.getElem?_eq_some_iff.1 hk
    have hle := Nat.le_of_lt hlt
    obtain ⟨hcolumn, hiff⟩ := cut.column_spec hmarks hle
    exact ⟨cut.getElem?_column hk hc, hcolumn, hiff,
      cut.isClearBefore_of_opensNoneBefore hmarks hle⟩
  · intro rule pattern verdict i hi
    obtain ⟨l, hl, m, hm, hline, hcolumn⟩ := exists_of_mem_patternIssues hi
    obtain ⟨cut⟩ := nonempty_cut hmarks (List.mem_filter.1 hl).1
    refine ⟨l, hl, cut, m, hm, hline, ?_⟩
    intro c hk hc
    obtain ⟨hlt, -⟩ := List.getElem?_eq_some_iff.1 hk
    obtain ⟨-, hiff⟩ := cut.column_spec hmarks (Nat.le_of_lt hlt)
    refine ⟨cut.getElem?_column hk hc, ?_⟩
    rw [hcolumn, ← hiff, Option.some_inj]
    omega

/-- The statement at a line with a quotation and a comment. The first call stands where the code has
it, and the second one later. -/
theorem columns_of_code_calls :
    let text := "f(\"a\"); eval(x); /* c */ eval(y);\n".toList
    ∃ l ∈ codeLines (listing .slashes text), ∃ cut : l.Cut .slashes,
      l.code[8]? = some 'e' ∧ l.raw[cut.column 8]? = some 'e' ∧ cut.column 8 = 8 ∧
      l.code[19]? = some 'e' ∧ l.raw[cut.column 19]? = some 'e' ∧ 19 < cut.column 19 := by
  intro text
  let l : SourceLine := ⟨1, "f(\"a\"); eval(x); /* c */ eval(y);".toList,
    "f(\" \"); eval(x);   eval(y);".toList, .code⟩
  have hl : l ∈ codeLines (listing .slashes text) := by decide
  obtain ⟨cut, hcut⟩ := (columns_of_code .slashes (by decide) text).1 l hl
  obtain ⟨hfirst, -, hiff, hclear⟩ := hcut 8 'e' (by decide) (by decide)
  obtain ⟨hsecond, hle, -⟩ := hcut 19 'e' (by decide) (by decide)
  have hopens : CommentStyle.slashes.OpensNoneBefore l.raw 8 := by
    unfold CommentStyle.OpensNoneBefore
    decide
  refine ⟨l, hl, cut, by decide, hfirst, hiff.2 (hclear (by decide) hopens), by decide, hsecond, ?_⟩
  -- The character at this position of the raw line is not the one that the code has there.
  rcases Nat.lt_or_eq_of_le hle with hlt | heq
  · exact hlt
  · rw [← heq] at hsecond
    exact absurd hsecond (by decide)

/-- After a comment that its line closes, the columns are those of the code and not of the line. -/
theorem columns_of_code_after_comment :
    let text := "a = 1; /* b */ var c;\n".toList
    (Language.javascript.analyzer.check ["no-var"] text).map (·.column) = [some 10] ∧
      ∃ l ∈ codeLines (listing .slashes text),
        l.code[9]? = some 'v' ∧ l.raw[9]? = some ' ' ∧ l.raw[15]? = some 'v' := by
  decide

end SourceReview
