import Mathlib.Data.List.Basic
import SourceReview.Proofs.Listing.Segments

/-!
# Masking what has been masked

The code of a line is a line again, made of the segments that masking leaves: plain characters, and
quotations of nothing but spaces (`fitting_masked`). No comment begins in it, since no mark of a
comment holds a space or a quotation mark, and one of these stands wherever something was taken out.
So masking it once more changes nothing (`mask_masked`).
-/

namespace SourceReview

open Segment

variable {style : CommentStyle}

namespace Segment

/-- The segment that masking leaves in the place of a segment. -/
def masked? : Segment → Option Segment
  | plain c => some (.plain c)
  | quotation mark body closed => some (.quotation mark (List.replicate body.length ' ') closed)
  | block _ _ true => some (.plain ' ')
  | block _ _ false => none
  | lineComment _ => none

/-- The segment is no comment, and no character of a quotation can be read in it. -/
def IsMasked : Segment → Prop
  | plain _ => True
  | quotation _ body _ => ∀ c ∈ body, c = ' '
  | block .. => False
  | lineComment _ => False

theorem isMasked_of_masked? {seg seg' : Segment} (h : seg.masked? = some seg') : seg'.IsMasked := by
  cases seg with
  | plain c =>
    cases h
    trivial
  | quotation mark body closed =>
    cases h
    intro c hc
    exact List.eq_of_mem_replicate hc
  | block mark inside closed =>
    cases closed with
    | true =>
      cases h
      trivial
    | false => cases h
  | lineComment => cases h

/-- A segment that is masked leaves no comment open, and masking shows all of it. -/
theorem IsMasked.shown_eq {seg : Segment} (h : seg.IsMasked) :
    seg.shown = seg.text ∧ seg.opens? = none := by
  cases seg with
  | plain => exact ⟨rfl, rfl⟩
  | quotation mark body closed =>
    have hbody : List.replicate body.length ' ' = body := (List.eq_replicate_of_mem h).symm
    exact ⟨by rw [shown, text, hbody], rfl⟩
  | block | lineComment => exact h.elim

end Segment

/-- The segments that are left make up what is shown. -/
theorem flatMap_text_masked? (segs : List Segment) :
    (segs.filterMap masked?).flatMap text = segs.flatMap shown := by
  induction segs with
  | nil => rfl
  | cons seg segs ih =>
    cases seg with
    | plain | quotation => simp [masked?, text, shown, ih]
    | block mark inside closed =>
      cases closed with
      | true => simp [masked?, text, shown, ih]
      | false => exact ih
    | lineComment => exact ih

theorem isQuoted_replicate {mark : Char} (hmark : isQuotationMark mark = true) (closed : Bool)
    (n : Nat) : IsQuoted mark closed (List.replicate n ' ') := by
  have hspace : ' ' ≠ mark := (ne_of_isQuotationMark hmark rfl).symm
  induction n with
  | zero => exact .nil
  | succ n ih => exact .char (by decide) hspace ih

/-- A mark that stands in what is shown stands in the line. Where a segment is not shown as it is, a
space or a quotation mark comes first, or nothing at all. -/
theorem Fitting.prefix_text (hstyle : style.IsClear) {segs : List Segment} (h : Fitting style segs)
    {mark : List Char} (hmark : ∀ c ∈ mark, c ≠ ' ' ∧ isQuotationMark c = false)
    (hshown : mark <+: segs.flatMap shown) : mark <+: segs.flatMap text := by
  induction segs generalizing mark with
  | nil => exact hshown
  | cons seg segs ih =>
    cases mark with
    | nil => exact List.nil_prefix
    | cons m mark =>
      obtain ⟨hspace, hquote⟩ := hmark m List.mem_cons_self
      obtain ⟨hfits, hsegs⟩ := h
      rw [List.flatMap_cons] at hshown ⊢
      generalize hrest : segs.flatMap text = rest at hfits ih ⊢
      cases hfits with
      | plain =>
        obtain ⟨hm, htail⟩ := List.cons_prefix_cons.1 hshown
        refine List.cons_prefix_cons.2 ⟨hm, ih hsegs ?_ htail⟩
        intro c hc
        exact hmark c (List.mem_cons_of_mem m hc)
      | quotation hopen =>
        rw [(List.cons_prefix_cons.1 hshown).1, hopen] at hquote
        cases hquote
      | closedBlock => exact absurd (List.cons_prefix_cons.1 hshown).1 hspace
      | openBlock | lineComment =>
        cases hsegs.eq_nil hstyle hrest
        exact absurd (List.prefix_nil.1 hshown) (List.cons_ne_nil m mark)

/-- **The segments that are left fit together.** -/
theorem fitting_masked (hstyle : style.IsClear) {segs : List Segment} (h : Fitting style segs) :
    Fitting style (segs.filterMap masked?) := by
  induction segs with
  | nil => exact h
  | cons seg segs ih =>
    have hsegs := ih h.2
    -- No comment begins in what is shown of the line where none begins in the line.
    have hopens : ¬ style.OpensAt ((seg :: segs).flatMap text) →
        ¬ style.OpensAt ((seg :: segs).flatMap shown) := by
      rintro hnot ⟨mark, hmark, hbegins⟩
      exact hnot ⟨mark, hmark, h.prefix_text hstyle (hstyle.opener_plain mark hmark) hbegins⟩
    cases seg with
    | plain c =>
      refine ⟨?_, hsegs⟩
      rw [flatMap_text_masked?]
      cases h.1 with
      | plain hquote hnot => exact .plain hquote (hopens hnot)
    | quotation mark body closed =>
      refine ⟨?_, hsegs⟩
      rw [flatMap_text_masked?]
      cases h.1 with
      | quotation hquote _ hrest =>
        refine .quotation hquote (isQuoted_replicate hquote closed _) ?_
        intro hopen
        rw [h.2.eq_nil hstyle (hrest hopen)]
        rfl
    | block mark inside closed =>
      cases closed with
      | true => exact ⟨.plain rfl fun hspace => (hstyle.head_plain hspace).1 rfl, hsegs⟩
      | false => exact hsegs
    | lineComment => exact hsegs

/-- The segments that are left after masking. -/
theorem exists_divides_mask_code (hstyle : style.IsClear) (line : List Char) :
    ∃ segs, style.Divides (mask style line).code segs ∧ ∀ seg ∈ segs, IsMasked seg := by
  obtain ⟨segs, rfl, hfitting⟩ := exists_divides hstyle line
  rw [mask_flatMap_text hstyle hfitting]
  refine ⟨segs.filterMap masked?, ⟨flatMap_text_masked? segs, fitting_masked hstyle hfitting⟩, ?_⟩
  intro seg hseg
  obtain ⟨_, -, hmasked⟩ := List.mem_filterMap.1 hseg
  exact isMasked_of_masked? hmasked

/-- **Masking is a normal form.** For every line, masking its code again gives the same code and
leaves no comment open. The code is divided into plain characters and quotations of spaces: there is
no comment in it, and none begins where a comment was taken out or a quotation was blanked. -/
theorem mask_masked (style : CommentStyle)
    (hstyle : style ∈ [CommentStyle.slashes, .hashes, .slashesAndHashes]) (line : List Char) :
    mask style (mask style line).code = ⟨(mask style line).code, none⟩ ∧
    ∀ segs, style.Divides (mask style line).code segs → ∀ seg ∈ segs, IsMasked seg := by
  have hclear := CommentStyle.isClear_known style hstyle
  obtain ⟨segs, hdivides, hmasked⟩ := exists_divides_mask_code hclear line
  constructor
  · obtain ⟨hcode, hfitting⟩ := id hdivides
    have hshown : segs.flatMap shown = segs.flatMap text :=
      List.flatMap_congr fun seg hseg => (hmasked seg hseg).shown_eq.1
    have hopens : segs.getLast?.bind opens? = none := by
      rw [Option.bind_eq_none_iff]
      intro seg hlast
      exact (hmasked seg (List.mem_of_getLast? hlast)).shown_eq.2
    rw [← hcode, mask_flatMap_text hclear hfitting, hshown, hopens]
  · intro other hother seg hseg
    rw [hother.unique hclear hdivides] at hseg
    exact hmasked seg hseg

/-- The two slashes around a comment do not come together. -/
theorem mask_masked_slashes :
    CommentStyle.slashesAndHashes ∈ [CommentStyle.slashes, .hashes, .slashesAndHashes] ∧
    (mask .slashesAndHashes "*/**// \"/*\" '# //".toList).code = "* / \"  \" '    ".toList ∧
    mask .slashesAndHashes "* / \"  \" '    ".toList = ⟨"* / \"  \" '    ".toList, none⟩ := by
  have hcode : (mask .slashesAndHashes "*/**// \"/*\" '# //".toList).code
      = "* / \"  \" '    ".toList := by decide
  have hagain := (mask_masked .slashesAndHashes (by decide) "*/**// \"/*\" '# //".toList).1
  rw [hcode] at hagain
  exact ⟨by decide, hcode, hagain⟩

end SourceReview
