import Mathlib.Data.List.Infix
import SourceReview.Proofs.Outline.Functions
import SourceReview.Proofs.Score.Complexity

/-!
# The complexity of functions

The complexity of a function is taken from the text of its block, which is listed anew for it. It
is nevertheless the complexity of the lines from the first to the last of the function, as the
listing of the whole text has them (`relisted_blocks_agree`). So no function is more complex than the
text it stands in (`Declared.complexity_le`).
-/

namespace SourceReview

namespace FunctionEntry

variable {style : CommentStyle} {weights : List Score.Weight} {text : List Char}
  {f : FunctionEntry}

/-- A function begins with the line that its number says, and ends with a line that is there. -/
theorem Declared.exists_getElem? (h : f.Declared style weights (listing style text)) :
    ∃ s head, (listing style text)[s]? = some head ∧ head.isCode = true ∧ f.line = s + 1 ∧
      f.line ≤ f.endLine ∧ f.endLine ≤ (listing style text).length ∧
      f.complexity = Score.complexity style weights
        (blockText (f.endLine - f.line) ((listing style text).drop s)) := by
  obtain ⟨head, rest, ⟨before, hlines⟩, hcode, hf⟩ := h
  have hhead : (listing style text)[before.length]? = some head := by
    rw [← hlines]
    simp
  have hline : f.line = before.length + 1 := by
    rw [hf.line_eq, number_of_getElem?_listing hhead]
  have hend : f.endLine ≤ (listing style text).length := by
    have hrest := hf.endLine_le
    rw [← hlines, List.length_append, List.length_cons]
    omega
  refine ⟨before.length, head, hhead, hcode, hline, hf.line_le, hend, ?_⟩
  rw [hf.complexity_eq, ← hlines, List.drop_left]

/-- The complexity of a function is that of its lines in the whole text. -/
theorem Declared.complexity_eq (h : f.Declared style weights (listing style text))
    (htext : ¬ ['\r', '\r', '\n'] <:+: text) :
    f.complexity
      = Score.ofListing weights ((listing style text).extract (f.line - 1) f.endLine) := by
  obtain ⟨s, head, hhead, hcode, hline, hle, -, hcomplexity⟩ := h.exists_getElem?
  have hspan : f.endLine - f.line + 1 = f.endLine - s := by omega
  rw [hcomplexity, Score.complexity_blockText weights htext hhead hcode, hspan, hline,
    Nat.add_sub_cancel]

/-- No function is more complex than its text. -/
theorem Declared.complexity_le (h : f.Declared style weights (listing style text))
    (htext : ¬ ['\r', '\r', '\n'] <:+: text) :
    f.complexity ≤ Score.complexity style weights text := by
  rw [h.complexity_eq htext]
  exact Score.ofListing_le_of_sublist weights
    ((List.take_sublist _ _).trans (List.drop_sublist _ _))

end FunctionEntry

/-- **Listing a block again agrees with the listing of the text.** In a text without two carriage
returns before a line feed, let a block begin with a line of code. The listing of its text has the
lines of the block as they are in the whole text, numbered from one, without an empty last one. So
the complexity of every function is that of the lines from its first to its last. -/
theorem relisted_blocks_agree (text : List Char) (htext : ¬ ['\r', '\r', '\n'] <:+: text) :
    (∀ (style : CommentStyle) (s e : Nat) (line : SourceLine),
      s ≤ e → e < (listing style text).length →
      (listing style text)[s]? = some line → line.isCode = true →
      listing style (blockText (e - s) ((listing style text).drop s))
        = (withoutEmptyLast ((listing style text).extract s (e + 1))).map
            (SourceLine.renumbered s)) ∧
    ∀ l ∈ Language.known, ∀ f ∈ (l.analyzer.outline text).functions,
      1 ≤ f.line ∧ f.line ≤ f.endLine ∧ f.endLine ≤ (listing l.comments text).length ∧
      f.complexity
        = Score.ofListing l.weights ((listing l.comments text).extract (f.line - 1) f.endLine) := by
  constructor
  · intro style s e line hse _ hline hcode
    have hspan : e - s + 1 = e + 1 - s := by omega
    rw [listing_blockText htext hline hcode, hspan]
  · intro l hl f hf
    have hdeclared := Language.declared_of_mem_outline hl hf
    obtain ⟨s, -, -, -, hline, hle, hend, -⟩ := hdeclared.exists_getElem?
    exact ⟨by omega, hle, hend, hdeclared.complexity_eq htext⟩

/-- The statement at a text with a carriage return before a line feed, a docstring and a block that
ends in an empty line. -/
theorem relisted_blocks_agree_docstring :
    let text := "\"\"\" a\n\"\"\"\ndef f(x):\r\n    # if\n    if x:\n        f(x)\n\nf(1)\n".toList
    let lines := listing .hashes text
    listing .hashes (blockText 4 (lines.drop 2))
        = (withoutEmptyLast (lines.extract 2 7)).map (SourceLine.renumbered 2) ∧
      ∃ f ∈ (Language.python.analyzer.outline text).functions,
        f.line = 3 ∧ f.endLine = 6 ∧ f.complexity = 2 ∧
        f.complexity = Score.ofListing Language.python.weights (lines.extract 2 6) := by
  intro text lines
  have h := relisted_blocks_agree text (by decide)
  have hf : ⟨"f", 3, 6, 1, 2, false⟩ ∈ (Language.python.analyzer.outline text).functions := by
    decide
  refine ⟨h.1 .hashes 2 6 _ (by decide) (by decide) rfl rfl, _, hf, rfl, rfl, rfl, ?_⟩
  exact (h.2 Language.python (by simp [Language.known]) _ hf).2.2.2

end SourceReview
