import SourceReview.Listing.Mask
import SourceReview.Proofs.Text.Segment

/-!
# The segments of a line

Masking goes through a line character by character. What it does is said by a grammar: a line is a
series of segments, each of them a plain character, a quotation or a comment (`Segment.Fits`). There
is exactly one such series for every line, and masking shows of each segment what it has to show
(`mask_shows_segments`). For that it matters that the marks of a style are clear of each other and
of quotation marks (`CommentStyle.IsClear`).
-/

namespace SourceReview

/-- A part of a line. -/
inductive Segment where
  /-- A character that stands for itself. -/
  | plain (c : Char)
  /-- A quotation, up to the mark that closes it or to the end of the line. -/
  | quotation (mark : Char) (body : List Char) (closed : Bool)
  /-- A block comment, up to the mark that closes it or to the end of the line. -/
  | block (mark : BlockMark) (inside : List Char) (closed : Bool)
  /-- A comment to the end of the line. -/
  | lineComment (text : List Char)
  deriving DecidableEq, Repr

/-- The text between the marks of a quotation. A backslash takes the next character with it. -/
inductive IsQuoted (mark : Char) (closed : Bool) : List Char → Prop
  | nil : IsQuoted mark closed []
  | char {c : Char} {body : List Char} : c ≠ '\\' → c ≠ mark → IsQuoted mark closed body →
      IsQuoted mark closed (c :: body)
  | escape (c : Char) {body : List Char} : IsQuoted mark closed body →
      IsQuoted mark closed ('\\' :: c :: body)
  /-- The line ends after a backslash. -/
  | cut : closed = false → IsQuoted mark closed ['\\']

namespace CommentStyle

/-- The marks of block comments that may stand in the middle of a line. -/
def inlineMarks (style : CommentStyle) : List BlockMark :=
  style.block.filter fun mark => mark.opening != mark.closing

/-- The marks that a comment in the middle of a line begins with. -/
def openers (style : CommentStyle) : List (List Char) :=
  style.line ++ style.inlineMarks.map (·.opening)

/-- A comment begins where the text begins. -/
def OpensAt (style : CommentStyle) (cs : List Char) : Prop := ∃ mark ∈ style.openers, mark <+: cs

/-- No mark is empty, none that begins a comment holds a space or a quotation mark, and none begins
with another. -/
structure IsClear (style : CommentStyle) : Prop where
  opener_ne_nil : ∀ mark ∈ style.openers, mark ≠ []
  opener_plain : ∀ mark ∈ style.openers, ∀ c ∈ mark, c ≠ ' ' ∧ isQuotationMark c = false
  closing_ne_nil : ∀ mark ∈ style.inlineMarks, mark.closing ≠ []
  line_apart : ∀ l ∈ style.line, ∀ mark ∈ style.inlineMarks,
    ¬ l <+: mark.opening ∧ ¬ mark.opening <+: l
  block_apart : ∀ mark ∈ style.inlineMarks, ∀ other ∈ style.inlineMarks,
    mark.opening <+: other.opening → mark = other

end CommentStyle

namespace Segment

/-- The text of a segment. -/
def text : Segment → List Char
  | plain c => [c]
  | quotation mark body closed => mark :: (body ++ if closed then [mark] else [])
  | block mark inside closed => mark.opening ++ (inside ++ if closed then mark.closing else [])
  | lineComment cs => cs

/-- What masking shows of a segment. -/
def shown : Segment → List Char
  | plain c => [c]
  | quotation mark body closed =>
    mark :: (List.replicate body.length ' ' ++ if closed then [mark] else [])
  | block _ _ closed => if closed then [' '] else []
  | lineComment _ => []

/-- The mark that closes the comment which a segment leaves open. -/
def opens? : Segment → Option (List Char)
  | block mark _ false => some mark.closing
  | _ => none

/-- A segment may stand where `rest` comes after it. What goes to the end of the line has nothing
after it, and a comment or a quotation goes no further than to its first closing mark. -/
inductive Fits (style : CommentStyle) : Segment → List Char → Prop
  | plain {c : Char} {rest : List Char} : isQuotationMark c = false → ¬ style.OpensAt (c :: rest) →
      Fits style (.plain c) rest
  | quotation {mark : Char} {body : List Char} {closed : Bool} {rest : List Char} :
      isQuotationMark mark = true → IsQuoted mark closed body → (closed = false → rest = []) →
      Fits style (.quotation mark body closed) rest
  | closedBlock {mark : BlockMark} {inside : List Char} (rest : List Char) :
      mark ∈ style.inlineMarks → ¬ mark.closing <:+: (inside ++ mark.closing).dropLast →
      Fits style (.block mark inside true) rest
  | openBlock {mark : BlockMark} {inside : List Char} :
      mark ∈ style.inlineMarks → ¬ mark.closing <:+: inside →
      Fits style (.block mark inside false) []
  | lineComment {mark text : List Char} : mark ∈ style.line → mark <+: text →
      Fits style (.lineComment text) []

end Segment

open Segment

/-- Every segment fits where it stands before the others. -/
def Fitting (style : CommentStyle) : List Segment → Prop
  | [] => True
  | seg :: segs => seg.Fits style (segs.flatMap text) ∧ Fitting style segs

/-- The line is made of the segments. -/
def CommentStyle.Divides (style : CommentStyle) (line : List Char) (segs : List Segment) : Prop :=
  segs.flatMap text = line ∧ Fitting style segs

/-! ### Masking shows the segments -/

section Masking

variable {style : CommentStyle}

theorem CommentStyle.beginsLineComment_iff {cs : List Char} :
    style.beginsLineComment cs = true ↔ ∃ mark ∈ style.line, mark <+: cs := by
  unfold CommentStyle.beginsLineComment
  rw [List.any_eq_true]
  simp only [Text.startsWith_iff]

theorem CommentStyle.inlineBlockAt?_eq (cs : List Char) :
    style.inlineBlockAt? cs
      = style.inlineMarks.find? fun mark => Text.startsWith cs mark.opening := by
  unfold CommentStyle.inlineBlockAt? CommentStyle.inlineMarks
  rw [List.find?_filter]
  simp only [Bool.decide_and, Bool.decide_eq_true]

theorem CommentStyle.opensAt_of_line {mark cs : List Char} (hmark : mark ∈ style.line)
    (hbegins : mark <+: cs) : style.OpensAt cs :=
  ⟨mark, List.mem_append_left _ hmark, hbegins⟩

theorem CommentStyle.opening_mem_openers {mark : BlockMark} (hmark : mark ∈ style.inlineMarks) :
    mark.opening ∈ style.openers :=
  List.mem_append_right _ (List.mem_map_of_mem hmark)

theorem CommentStyle.not_opensAt_iff {cs : List Char} :
    ¬ style.OpensAt cs ↔
      style.beginsLineComment cs = false ∧ style.inlineBlockAt? cs = none := by
  rw [← Bool.not_eq_true, CommentStyle.beginsLineComment_iff, CommentStyle.inlineBlockAt?_eq,
    List.find?_eq_none]
  simp only [Text.startsWith_iff]
  constructor
  · intro h
    exact ⟨fun ⟨mark, hmark, hbegins⟩ => h (CommentStyle.opensAt_of_line hmark hbegins),
      fun mark hmark hbegins => h ⟨_, CommentStyle.opening_mem_openers hmark, hbegins⟩⟩
  · rintro ⟨hline, hblock⟩ ⟨opener, hopener, hbegins⟩
    rcases List.mem_append.1 hopener with hmem | hmem
    · exact hline ⟨opener, hmem, hbegins⟩
    · obtain ⟨mark, hmark, rfl⟩ := List.mem_map.1 hmem
      exact hblock mark hmark hbegins

/-- No comment begins with a space or a quotation mark. -/
theorem CommentStyle.IsClear.head_plain (h : style.IsClear) {c : Char} {cs : List Char}
    (hopens : style.OpensAt (c :: cs)) : c ≠ ' ' ∧ isQuotationMark c = false := by
  obtain ⟨mark, hmark, hbegins⟩ := hopens
  cases mark with
  | nil => exact absurd rfl (h.opener_ne_nil _ hmark)
  | cons m mark =>
    rw [← (List.cons_prefix_cons.1 hbegins).1]
    exact h.opener_plain _ hmark m List.mem_cons_self

/-- Where a block comment begins, no other comment begins. -/
theorem CommentStyle.IsClear.inlineBlockAt?_eq_some (h : style.IsClear) {mark : BlockMark}
    (hmark : mark ∈ style.inlineMarks) {cs : List Char} (hbegins : mark.opening <+: cs) :
    style.beginsLineComment cs = false ∧ style.inlineBlockAt? cs = some mark := by
  constructor
  · rw [← Bool.not_eq_true, CommentStyle.beginsLineComment_iff]
    rintro ⟨l, hl, hother⟩
    obtain ⟨hleft, hright⟩ := h.line_apart l hl mark hmark
    rcases List.prefix_or_prefix_of_prefix hother hbegins with hle | hle
    · exact hleft hle
    · exact hright hle
  · rw [CommentStyle.inlineBlockAt?_eq]
    have hsome : (style.inlineMarks.find? fun m => Text.startsWith cs m.opening).isSome = true := by
      rw [List.find?_isSome]
      exact ⟨mark, hmark, Text.startsWith_iff.2 hbegins⟩
    obtain ⟨found, hfound⟩ := Option.isSome_iff_exists.1 hsome
    have hmem := List.mem_of_find?_eq_some hfound
    have hother := Text.startsWith_iff.1 (List.find?_some hfound :)
    rw [hfound]
    rcases List.prefix_or_prefix_of_prefix hother hbegins with hle | hle
    · rw [h.block_apart found hmem mark hmark hle]
    · rw [h.block_apart mark hmark found hmem hle]

/-- Characters that are skipped do not matter. -/
theorem maskFrom_skip (style : CommentStyle) (n : Nat) (cs : List Char) :
    maskFrom style (.code n) cs = mask style (cs.drop n) := by
  induction n generalizing cs with
  | zero => rfl
  | succ n ih =>
    cases cs with
    | nil => simp [maskFrom, mask]
    | cons c cs => rw [maskFrom, ih, List.drop_succ_cons]

theorem ne_of_isQuotationMark {mark c : Char} (hmark : isQuotationMark mark = true)
    (hc : isQuotationMark c = false) : mark ≠ c := by
  rintro rfl
  rw [hmark] at hc
  cases hc

/-- A quotation is blanked up to its end. -/
theorem maskFrom_quotation (style : CommentStyle) {mark : Char} {closed : Bool} {body : List Char}
    (hmark : isQuotationMark mark = true) (hbody : IsQuoted mark closed body) {rest : List Char}
    (hrest : closed = false → rest = []) :
    maskFrom style (.quotation mark false) (body ++ ((if closed then [mark] else []) ++ rest))
      = ⟨List.replicate body.length ' '
            ++ ((if closed then [mark] else []) ++ (mask style rest).code),
          (mask style rest).opens⟩ := by
  have hescape : mark ≠ '\\' := ne_of_isQuotationMark hmark rfl
  induction hbody with
  | nil =>
    cases closed with
    | true =>
      show maskFrom style (.quotation mark false) (mark :: rest) = _
      rw [maskFrom, if_neg hescape, if_pos rfl]
      rfl
    | false =>
      cases hrest rfl
      rfl
  | @char c body hc hne _ ih =>
    rw [List.cons_append, maskFrom, if_neg hc, if_neg hne, ih]
    rfl
  | @escape c body _ ih =>
    rw [List.cons_append, List.cons_append, maskFrom, if_pos rfl, maskFrom, ih]
    rfl
  | cut hclosed =>
    cases hclosed
    cases hrest rfl
    rfl

/-- A block comment is replaced by a space, or goes to the end of the line. -/
theorem mask_opening (hstyle : style.IsClear) {mark : BlockMark}
    (hmark : mark ∈ style.inlineMarks) (tail : List Char) :
    mask style (mark.opening ++ tail)
      = (Text.splitFirst mark.closing tail).elim ⟨[], some mark.closing⟩ fun split =>
          (mask style split.2).cons ' ' := by
  have hbegins : mark.opening <+: mark.opening ++ tail := List.prefix_append _ _
  obtain ⟨hline, hblock⟩ := hstyle.inlineBlockAt?_eq_some hmark hbegins
  have hopens : style.OpensAt (mark.opening ++ tail) :=
    ⟨_, CommentStyle.opening_mem_openers hmark, hbegins⟩
  have hlength : closedLength? mark (mark.opening ++ tail)
      = (Text.splitFirst mark.closing tail).map fun split =>
          mark.opening.length + split.1.length + mark.closing.length := by
    unfold closedLength?
    rw [List.drop_left]
  have hne := hstyle.opener_ne_nil _ (CommentStyle.opening_mem_openers hmark)
  obtain ⟨c, cs, hopening⟩ := List.exists_cons_of_ne_nil hne
  rw [hopening, List.cons_append] at hline hblock hlength hopens ⊢
  unfold mask
  rw [maskFrom, if_neg (by simp [(hstyle.head_plain hopens).2]), if_neg (by simp [hline]),
    hblock]
  dsimp only
  rw [hlength]
  cases hsplit : Text.splitFirst mark.closing tail with
  | none => rfl
  | some split =>
    obtain ⟨inside, rest⟩ := split
    have htail := Text.eq_of_splitFirst_eq_some hsplit
    -- The first character has been read, so that one less is skipped.
    have hdrop : (cs ++ tail).drop ((c :: cs).length + inside.length + mark.closing.length - 1)
        = rest := by
      rw [htail, ← List.append_assoc, ← List.append_assoc]
      apply List.drop_left'
      simp only [List.length_append, List.length_cons]
      omega
    show (maskFrom style (.code ((c :: cs).length + inside.length + mark.closing.length - 1))
      (cs ++ tail)).cons ' ' = _
    rw [maskFrom_skip, hdrop]
    rfl

/-- **Masking takes one segment at a time.** It shows what the segment has to show, and what comes
after it is masked by itself. -/
theorem mask_append (hstyle : style.IsClear) {seg : Segment} {rest : List Char}
    (h : seg.Fits style rest) :
    mask style (seg.text ++ rest)
      = ⟨seg.shown ++ (mask style rest).code, seg.opens?.or (mask style rest).opens⟩ := by
  cases h with
  | @plain c rest hquote hopens =>
    obtain ⟨hline, hblock⟩ := CommentStyle.not_opensAt_iff.1 hopens
    show maskFrom style (.code 0) (c :: rest) = _
    rw [maskFrom, if_neg (by simp [hquote]), if_neg (by simp [hline]), hblock]
    rfl
  | @quotation mark body closed rest hquote hbody hrest =>
    have htext : (Segment.quotation mark body closed).text ++ rest
        = mark :: (body ++ ((if closed then [mark] else []) ++ rest)) := by
      simp [text]
    rw [htext]
    show maskFrom style (.code 0) (mark :: _) = _
    rw [maskFrom, if_pos hquote, maskFrom_quotation style hquote hbody hrest]
    simp [Masked.cons, shown, opens?]
  | @closedBlock mark inside _ hmark hfirst =>
    have hsplit : Text.splitFirst mark.closing (inside ++ (mark.closing ++ rest))
        = some (inside, rest) :=
      (Text.splitFirst_eq_some_iff (hstyle.closing_ne_nil mark hmark)).2 ⟨rfl, hfirst⟩
    have htext : (Segment.block mark inside true).text ++ rest
        = mark.opening ++ (inside ++ (mark.closing ++ rest)) := by
      simp [text]
    rw [htext, mask_opening hstyle hmark, hsplit]
    rfl
  | @openBlock mark inside hmark hnone =>
    have htext : (Segment.block mark inside false).text ++ [] = mark.opening ++ inside := by
      simp [text]
    rw [htext, mask_opening hstyle hmark, Text.splitFirst_eq_none_iff.2 hnone]
    rfl
  | @lineComment mark cs hmark hbegins =>
    have hopens := CommentStyle.opensAt_of_line hmark hbegins
    have hline := CommentStyle.beginsLineComment_iff.2 ⟨mark, hmark, hbegins⟩
    have htext : (Segment.lineComment cs).text ++ [] = cs := List.append_nil cs
    rw [htext]
    cases cs with
    | nil => rfl
    | cons c cs =>
      show maskFrom style (.code 0) (c :: cs) = _
      rw [maskFrom, if_neg (by simp [(hstyle.head_plain hopens).2]), if_pos hline]
      rfl

/-- A segment is not empty. -/
theorem Segment.Fits.text_ne_nil (hstyle : style.IsClear) {seg : Segment} {rest : List Char}
    (h : seg.Fits style rest) : seg.text ≠ [] := by
  cases h with
  | plain | quotation => exact List.cons_ne_nil _ _
  | closedBlock _ hmark | openBlock hmark =>
    have hne := hstyle.opener_ne_nil _ (CommentStyle.opening_mem_openers hmark)
    exact List.append_ne_nil_of_left_ne_nil hne _
  | lineComment hmark hbegins =>
    rintro rfl
    exact hstyle.opener_ne_nil _ (List.mem_append_left _ hmark) (List.prefix_nil.1 hbegins)

/-- Only no segments make up the empty line. -/
theorem Fitting.eq_nil (hstyle : style.IsClear) {segs : List Segment} (h : Fitting style segs)
    (htext : segs.flatMap text = []) : segs = [] := by
  cases segs with
  | nil => rfl
  | cons seg segs =>
    rw [List.flatMap_cons, List.append_eq_nil_iff] at htext
    exact absurd htext.1 (h.1.text_ne_nil hstyle)

/-- A comment that is left open is the last segment. -/
theorem Segment.Fits.rest_eq_nil {seg : Segment} {rest closing : List Char}
    (h : seg.Fits style rest) (hopens : seg.opens? = some closing) : rest = [] := by
  cases h with
  | plain | quotation | closedBlock => cases hopens
  | openBlock | lineComment => rfl

theorem Segment.opens?_eq_some_iff {seg : Segment} {closing : List Char} :
    seg.opens? = some closing ↔
      ∃ mark inside, seg = .block mark inside false ∧ mark.closing = closing := by
  constructor
  · intro h
    match seg, h with
    | .block mark inside false, h => exact ⟨mark, inside, rfl, Option.some.inj h⟩
  · rintro ⟨mark, inside, rfl, rfl⟩
    rfl

theorem Fitting.opens?_cons (hstyle : style.IsClear) {seg : Segment} {segs : List Segment}
    (h : Fitting style (seg :: segs)) :
    seg.opens?.or (segs.getLast?.bind opens?) = (seg :: segs).getLast?.bind opens? := by
  cases hopens : seg.opens? with
  | some closing =>
    cases h.2.eq_nil hstyle (h.1.rest_eq_nil hopens)
    exact hopens.symm
  | none =>
    cases segs with
    | nil => exact hopens.symm
    | cons next segs => rw [Option.none_or, List.getLast?_cons_cons]

/-- Masking a line of segments shows the segments, and leaves open what the last one does. -/
theorem mask_flatMap_text (hstyle : style.IsClear) {segs : List Segment} (h : Fitting style segs) :
    mask style (segs.flatMap text) = ⟨segs.flatMap shown, segs.getLast?.bind opens?⟩ := by
  induction segs with
  | nil => rfl
  | cons seg segs ih =>
    rw [List.flatMap_cons, mask_append hstyle h.1, ih h.2, List.flatMap_cons, h.opens?_cons hstyle]

end Masking

/-! ### Every line has segments -/

section Existence

variable {style : CommentStyle}

/-- After a quotation mark, a quotation goes to the same mark or to the end of the line. -/
theorem exists_isQuoted (mark : Char) : ∀ cs : List Char, ∃ body closed rest,
    cs = body ++ ((if closed then [mark] else []) ++ rest) ∧ IsQuoted mark closed body ∧
      (closed = false → rest = [])
  | [] => ⟨[], false, [], rfl, .nil, fun _ => rfl⟩
  | [c] => by
    by_cases hc : c = '\\'
    · exact ⟨['\\'], false, [], by rw [hc]; rfl, .cut rfl, fun _ => rfl⟩
    · by_cases hmark : c = mark
      · exact ⟨[], true, [], by rw [hmark]; rfl, .nil, fun _ => rfl⟩
      · exact ⟨[c], false, [], rfl, .char hc hmark .nil, fun _ => rfl⟩
  | c :: d :: cs => by
    by_cases hc : c = '\\'
    · obtain ⟨body, closed, rest, hcs, hbody, hrest⟩ := exists_isQuoted mark cs
      exact ⟨c :: d :: body, closed, rest, by rw [hcs]; rfl, hc ▸ .escape d hbody, hrest⟩
    · by_cases hmark : c = mark
      · exact ⟨[], true, d :: cs, by rw [hmark]; rfl, .nil, fun h => by cases h⟩
      · obtain ⟨body, closed, rest, hcs, hbody, hrest⟩ := exists_isQuoted mark (d :: cs)
        exact ⟨c :: body, closed, rest, by rw [hcs]; rfl, .char hc hmark hbody, hrest⟩

/-- A line that is not empty begins with a segment. -/
theorem exists_fits (hstyle : style.IsClear) (c : Char) (cs : List Char) :
    ∃ seg rest, c :: cs = Segment.text seg ++ rest ∧ seg.Fits style rest := by
  by_cases hquote : isQuotationMark c = true
  · obtain ⟨body, closed, rest, hcs, hbody, hrest⟩ := exists_isQuoted c cs
    refine ⟨.quotation c body closed, rest, ?_, .quotation hquote hbody hrest⟩
    rw [hcs]
    simp [text]
  by_cases hopens : style.OpensAt (c :: cs)
  · obtain ⟨opener, hopener, hbegins⟩ := hopens
    rcases List.mem_append.1 hopener with hline | hblock
    · exact ⟨.lineComment (c :: cs), [], (List.append_nil _).symm, .lineComment hline hbegins⟩
    · obtain ⟨mark, hmark, rfl⟩ := List.mem_map.1 hblock
      obtain ⟨tail, htail⟩ := hbegins
      cases hsplit : Text.splitFirst mark.closing tail with
      | none =>
        refine ⟨.block mark tail false, [], ?_, .openBlock hmark ?_⟩
        · simp [text, htail]
        · exact Text.splitFirst_eq_none_iff.1 hsplit
      | some split =>
        obtain ⟨inside, rest⟩ := split
        obtain ⟨rfl, hfirst⟩ :=
          (Text.splitFirst_eq_some_iff (hstyle.closing_ne_nil mark hmark)).1 hsplit
        refine ⟨.block mark inside true, rest, ?_, .closedBlock rest hmark hfirst⟩
        simp [text, ← htail]
  · exact ⟨.plain c, cs, rfl, .plain (by simpa using hquote) hopens⟩

theorem exists_divides (hstyle : style.IsClear) (line : List Char) :
    ∃ segs, style.Divides line segs := by
  induction hn : line.length using Nat.strongRecOn generalizing line with
  | _ n ih =>
    cases line with
    | nil => exact ⟨[], rfl, trivial⟩
    | cons c cs =>
      obtain ⟨seg, rest, hline, hfits⟩ := exists_fits hstyle c cs
      have hlength := congrArg List.length hline
      have hpos := List.length_pos_iff.2 (hfits.text_ne_nil hstyle)
      rw [List.length_append] at hlength
      obtain ⟨segs, hsegs, hfitting⟩ := ih rest.length (by omega) rest rfl
      refine ⟨seg :: segs, ?_, ?_, hfitting⟩
      · rw [List.flatMap_cons, hsegs, hline]
      · rwa [hsegs]

end Existence

/-! ### No line has them in two ways -/

section Uniqueness

variable {style : CommentStyle}

/-- What comes after the text of a quotation can only begin with its mark. -/
theorem eq_of_closing_append {mark c : Char} {closed : Bool} {rest cs : List Char}
    (hrest : closed = false → rest = [])
    (heq : (if closed then [mark] else []) ++ rest = c :: cs) : c = mark := by
  cases closed with
  | true => exact (List.cons.inj heq).1.symm
  | false => simp [hrest rfl] at heq

/-- A quotation has one end. -/
theorem IsQuoted.eq_of_append_eq {mark : Char} (hescape : mark ≠ '\\') {closed closed' : Bool}
    {body body' rest rest' : List Char} (h : IsQuoted mark closed body)
    (h' : IsQuoted mark closed' body') (hrest : closed = false → rest = [])
    (hrest' : closed' = false → rest' = [])
    (heq : body ++ ((if closed then [mark] else []) ++ rest)
      = body' ++ ((if closed' then [mark] else []) ++ rest')) : body = body' := by
  induction h generalizing body' with
  | nil =>
    cases h' with
    | nil => rfl
    | char hc hne _ => exact absurd (eq_of_closing_append hrest heq) hne
    | escape | cut => exact absurd (eq_of_closing_append hrest heq).symm hescape
  | char hc hne _ ih =>
    cases h' with
    | nil => exact absurd (eq_of_closing_append hrest' heq.symm) hne
    | char _ _ h' =>
      obtain ⟨rfl, htail⟩ := List.cons.inj heq
      rw [ih h' htail]
    | escape | cut => exact absurd (List.cons.inj heq).1 hc
  | escape c _ ih =>
    cases h' with
    | nil => exact absurd (eq_of_closing_append hrest' heq.symm).symm hescape
    | char hc => exact absurd (List.cons.inj heq).1.symm hc
    | escape d h' =>
      obtain ⟨rfl, htail⟩ := List.cons.inj (List.cons.inj heq).2
      rw [ih h' htail]
    | cut hclosed =>
      cases hclosed
      simp [hrest' rfl] at heq
  | cut hclosed =>
    cases hclosed
    cases h' with
    | nil => exact absurd (eq_of_closing_append hrest' heq.symm).symm hescape
    | char hc => exact absurd (List.cons.inj heq).1.symm hc
    | escape => simp [hrest rfl] at heq
    | cut => rfl

namespace Segment

def isQuotation : Segment → Bool
  | quotation .. => true
  | _ => false

def isLineComment : Segment → Bool
  | lineComment _ => true
  | _ => false

/-- The marks of a block comment. -/
def blockMark? : Segment → Option BlockMark
  | block mark .. => some mark
  | _ => none

namespace Fits

variable {seg : Segment} {rest : List Char}

/-- The first character tells whether a segment is a quotation. -/
theorem isQuotationMark_head (hstyle : style.IsClear) (h : seg.Fits style rest) {c : Char}
    {cs : List Char} (hline : seg.text ++ rest = c :: cs) :
    isQuotationMark c = seg.isQuotation := by
  cases h with
  | plain hquote => rwa [← (List.cons.inj hline).1]
  | quotation hquote => rwa [← (List.cons.inj hline).1]
  | closedBlock _ hmark | openBlock hmark =>
    have hopens : style.OpensAt (c :: cs) := by
      refine ⟨_, CommentStyle.opening_mem_openers hmark, ?_⟩
      rw [← hline, text, List.append_assoc]
      exact List.prefix_append _ _
    exact (hstyle.head_plain hopens).2
  | lineComment hmark hbegins =>
    have hopens : style.OpensAt (c :: cs) := by
      rw [← hline]
      exact CommentStyle.opensAt_of_line hmark (hbegins.trans (List.prefix_append _ _))
    exact (hstyle.head_plain hopens).2

/-- The marks of comments tell the other segments apart. -/
theorem comment_marks (hstyle : style.IsClear) (h : seg.Fits style rest)
    (hquote : seg.isQuotation = false) :
    style.beginsLineComment (seg.text ++ rest) = seg.isLineComment ∧
      (seg.isLineComment = false →
        style.inlineBlockAt? (seg.text ++ rest) = seg.blockMark?) := by
  cases h with
  | plain _ hopens =>
    obtain ⟨hline, hblock⟩ := CommentStyle.not_opensAt_iff.1 hopens
    exact ⟨hline, fun _ => hblock⟩
  | quotation => cases hquote
  | closedBlock _ hmark | openBlock hmark =>
    rw [text, List.append_assoc]
    obtain ⟨hline, hblock⟩ :=
      hstyle.inlineBlockAt?_eq_some hmark (List.prefix_append _ _)
    exact ⟨hline, fun _ => hblock⟩
  | lineComment hmark hbegins =>
    refine ⟨CommentStyle.beginsLineComment_iff.2 ⟨_, hmark, ?_⟩, fun h => by cases h⟩
    exact hbegins.trans (List.prefix_append _ _)

/-- A block comment goes to its first closing mark, or to the end of the line. -/
theorem splitFirst_block (hstyle : style.IsClear) {mark : BlockMark} {inside : List Char}
    {closed : Bool} (h : (Segment.block mark inside closed).Fits style rest) :
    Text.splitFirst mark.closing (inside ++ ((if closed then mark.closing else []) ++ rest))
      = if closed then some (inside, rest) else none := by
  cases h with
  | closedBlock _ hmark hfirst =>
    exact (Text.splitFirst_eq_some_iff (hstyle.closing_ne_nil mark hmark)).2 ⟨rfl, hfirst⟩
  | openBlock hmark hnone =>
    rw [List.append_nil]
    exact Text.splitFirst_eq_none_iff.2 (by simpa using hnone)

theorem quotation_eq {mark mark' : Char} {body body' rest' : List Char} {closed closed' : Bool}
    (h : (Segment.quotation mark body closed).Fits style rest)
    (h' : (Segment.quotation mark' body' closed').Fits style rest')
    (heq : (Segment.quotation mark body closed).text ++ rest
      = (Segment.quotation mark' body' closed').text ++ rest') :
    Segment.quotation mark body closed = .quotation mark' body' closed' := by
  rw [text, text, List.cons_append, List.cons_append, List.append_assoc, List.append_assoc] at heq
  obtain ⟨rfl, htail⟩ := List.cons.inj heq
  cases h with
  | quotation hquote hbody hrest =>
    cases h' with
    | quotation _ hbody' hrest' =>
      cases hbody.eq_of_append_eq (ne_of_isQuotationMark hquote rfl) hbody' hrest hrest' htail
      have hend := List.append_cancel_left htail
      have hclosed : closed = closed' := by
        cases closed with
        | true =>
          cases closed' with
          | true => rfl
          | false => simp [hrest' rfl] at hend
        | false =>
          cases closed' with
          | true => simp [hrest rfl] at hend
          | false => rfl
      rw [hclosed]

theorem block_eq (hstyle : style.IsClear) {mark : BlockMark} {inside inside' rest' : List Char}
    {closed closed' : Bool} (h : (Segment.block mark inside closed).Fits style rest)
    (h' : (Segment.block mark inside' closed').Fits style rest')
    (heq : (Segment.block mark inside closed).text ++ rest
      = (Segment.block mark inside' closed').text ++ rest') :
    Segment.block mark inside closed = .block mark inside' closed' := by
  simp only [text, List.append_assoc] at heq
  have htail := List.append_cancel_left heq
  -- Both comments end where the search for the closing mark ends.
  have hsplit := h.splitFirst_block hstyle
  rw [htail, h'.splitFirst_block hstyle] at hsplit
  cases closed with
  | true =>
    cases closed' with
    | true =>
      simp only [if_true, Option.some.injEq, Prod.mk.injEq] at hsplit
      rw [hsplit.1]
    | false => simp at hsplit
  | false =>
    cases closed' with
    | true => simp at hsplit
    | false =>
      cases h with
      | openBlock =>
        cases h' with
        | openBlock => simpa using htail

/-- **A line begins with one segment only.** -/
theorem eq_of_append_eq (hstyle : style.IsClear) {seg' : Segment} {rest' : List Char}
    (h : seg.Fits style rest) (h' : seg'.Fits style rest')
    (heq : seg.text ++ rest = seg'.text ++ rest') : seg = seg' := by
  obtain ⟨c, cs, hline⟩ := List.exists_cons_of_ne_nil
    (List.append_ne_nil_of_left_ne_nil (h.text_ne_nil hstyle) rest)
  have hquote : seg.isQuotation = seg'.isQuotation := by
    rw [← h.isQuotationMark_head hstyle hline, ← h'.isQuotationMark_head hstyle (heq ▸ hline)]
  have hcomment : seg.isQuotation = false → seg.isLineComment = seg'.isLineComment := by
    intro hfalse
    rw [← (h.comment_marks hstyle hfalse).1, heq,
      (h'.comment_marks hstyle (hquote ▸ hfalse)).1]
  have hmark : seg.isQuotation = false → seg.isLineComment = false →
      seg.blockMark? = seg'.blockMark? := by
    intro hfalse hno
    rw [← (h.comment_marks hstyle hfalse).2 hno, heq,
      (h'.comment_marks hstyle (hquote ▸ hfalse)).2 (hcomment hfalse ▸ hno)]
  -- Segments of different kinds disagree on one of these.
  cases seg with
  | plain c =>
    cases seg' with
    | plain d => rw [(List.cons.inj heq).1]
    | quotation => cases hquote
    | block => cases hmark rfl rfl
    | lineComment => cases hcomment rfl
  | quotation mark body closed =>
    cases seg' with
    | quotation => exact quotation_eq h h' heq
    | plain | block | lineComment => cases hquote
  | block mark inside closed =>
    cases seg' with
    | block mark' inside' closed' =>
      cases hmark rfl rfl
      exact block_eq hstyle h h' heq
    | plain => cases hmark rfl rfl
    | quotation => cases hquote
    | lineComment => cases hcomment rfl
  | lineComment cs =>
    cases seg' with
    | lineComment =>
      cases h
      cases h'
      simpa [text] using heq
    | quotation => cases hquote
    | plain | block => cases hcomment rfl

end Fits

end Segment

theorem CommentStyle.Divides.unique (hstyle : style.IsClear) {line : List Char}
    {segs segs' : List Segment} (h : style.Divides line segs) (h' : style.Divides line segs') :
    segs = segs' := by
  obtain ⟨rfl, hfitting⟩ := h
  obtain ⟨heq, hfitting'⟩ := h'
  induction segs generalizing segs' with
  | nil => exact (hfitting'.eq_nil hstyle heq).symm
  | cons seg segs ih =>
    cases segs' with
    | nil => exact hfitting.eq_nil hstyle heq.symm
    | cons seg' segs' =>
      rw [List.flatMap_cons, List.flatMap_cons] at heq
      cases hfitting.1.eq_of_append_eq hstyle hfitting'.1 heq.symm
      rw [ih hfitting.2 (List.append_cancel_left heq) hfitting'.2]

theorem CommentStyle.isClear_known :
    ∀ style ∈ [CommentStyle.slashes, .hashes, .slashesAndHashes], style.IsClear := by
  intro style hstyle
  have hplain : ∀ mark ∈ style.openers, ∀ c ∈ mark, c ≠ ' ' ∧ isQuotationMark c = false := by
    -- The check goes over the marks, not over all characters there are.
    have hall : ∀ style ∈ [CommentStyle.slashes, .hashes, .slashesAndHashes],
        (style.openers.all fun mark => mark.all fun c => c != ' ' && !isQuotationMark c) = true := by
      decide
    intro mark hmark c hc
    simpa using List.all_eq_true.1 (List.all_eq_true.1 (hall style hstyle) mark hmark) c hc
  simp only [List.mem_cons, List.not_mem_nil, or_false] at hstyle
  rcases hstyle with rfl | rfl | rfl
  all_goals exact ⟨by decide, hplain, by decide, by decide, by decide⟩

/-- **Masking follows the grammar of segments**, for every line. There is one and only one way to
divide the line into segments. The code is what the segments show: a plain character itself, the
marks of a quotation and a space for each character between them, a space for a block comment that
is closed, and nothing for the comment that goes to the end of the line. A closing mark is awaited
exactly when the last segment is a block comment that is not closed. -/
theorem mask_shows_segments (style : CommentStyle)
    (hstyle : style ∈ [CommentStyle.slashes, .hashes, .slashesAndHashes]) (line : List Char) :
    ∃ segs, style.Divides line segs ∧ (∀ other, style.Divides line other → other = segs) ∧
      (mask style line).code = segs.flatMap shown ∧
      ∀ closing, (mask style line).opens = some closing ↔
        ∃ mark inside, segs.getLast? = some (.block mark inside false) ∧
          mark.closing = closing := by
  have hclear := CommentStyle.isClear_known style hstyle
  obtain ⟨segs, hdivides⟩ := exists_divides hclear line
  obtain ⟨rfl, hfitting⟩ := id hdivides
  refine ⟨segs, hdivides, fun other hother => hother.unique hclear hdivides, ?_, ?_⟩
  · rw [mask_flatMap_text hclear hfitting]
  · intro closing
    rw [mask_flatMap_text hclear hfitting, Option.bind_eq_some_iff]
    constructor
    · rintro ⟨seg, hlast, hopens⟩
      obtain ⟨mark, inside, rfl, hclosing⟩ := opens?_eq_some_iff.1 hopens
      exact ⟨mark, inside, hlast, hclosing⟩
    · rintro ⟨mark, inside, hlast, hclosing⟩
      exact ⟨_, hlast, opens?_eq_some_iff.2 ⟨mark, inside, rfl, hclosing⟩⟩

/-- A line with a character, a quotation that holds its own mark, a comment that is closed and one
that is not. -/
theorem mask_shows_segments_mixed :
    let line := "x\"\\\"\"/**//*y".toList
    let mark : BlockMark := ⟨"/*".toList, "*/".toList⟩
    let segs : List Segment :=
      [.plain 'x', .quotation '"' ['\\', '"'] true, .block mark [] true, .block mark ['y'] false]
    CommentStyle.slashes ∈ [CommentStyle.slashes, .hashes, .slashesAndHashes] ∧
      CommentStyle.slashes.Divides line segs ∧
      (mask .slashes line).code = "x\"  \" ".toList ∧
      (mask .slashes line).opens = some "*/".toList := by
  intro line mark segs
  obtain ⟨found, -, hunique, hcode, hopens⟩ := mask_shows_segments .slashes (by decide) line
  have hsegs : CommentStyle.slashes.Divides line segs := by
    refine ⟨rfl, .plain rfl ?_, .quotation rfl (.escape '"' .nil) (by simp),
      .closedBlock _ (by decide) (by decide), .openBlock (by decide) (by decide), trivial⟩
    unfold CommentStyle.OpensAt
    decide
  cases hunique segs hsegs
  exact ⟨by decide, hsegs, hcode, (hopens _).2 ⟨mark, ['y'], rfl, rfl⟩⟩

end Uniqueness

end SourceReview
