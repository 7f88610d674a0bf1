import SourceReview.Proofs.Listing.Relisting
import SourceReview.Score.Complexity

/-!
# Complexity of blocks

The complexity of a listing depends on the code of its lines alone. So the text of a block has the
complexity of the lines it was taken from (`complexity_blockText`), and since these are some of the
lines of the whole text, no block is more complex than its text (`ofListing_le_of_sublist`).
-/

namespace SourceReview.Score

variable (weights : List Weight)

theorem total_le_of_sublist {ms ns : List Nat} (h : ms.Sublist ns) : total ms ≤ total ns := by
  induction h with
  | slnil => exact Nat.le_refl _
  | cons n _ ih => exact Nat.le_trans ih (Nat.le_add_left _ _)
  | cons_cons n _ ih => exact Nat.add_le_add_left ih n

/-- The score of a listing is that of the code of its lines of code. -/
theorem ofListing_congr {lines lines' : List SourceLine}
    (h : (codeLines lines).map (·.code) = (codeLines lines').map (·.code)) :
    ofListing weights lines = ofListing weights lines' := by
  have hhalves : ∀ lines : List SourceLine, listingHalves weights lines
      = total (((codeLines lines).map (·.code)).map (lineHalves weights)) := by
    intro lines
    rw [List.map_map]
    rfl
  unfold ofListing
  rw [hhalves, hhalves, h]

/-! ### Order -/

theorem toNat_wholeOfHalves (halves : Nat) :
    (wholeOfHalves halves).toNat = min ((halves + 1) / 2) 0xFFFFFFFF := by
  unfold wholeOfHalves
  dsimp only
  have hsize : UInt32.size = 0xFFFFFFFF + 1 := rfl
  split
  · rename_i hlt
    rw [UInt32.toNat_ofNat_of_lt' hlt]
    omega
  · rename_i hge
    show 0xFFFFFFFF = _
    omega

theorem one_le_ofListing (lines : List SourceLine) : 1 ≤ ofListing weights lines := by
  rw [UInt32.le_iff_toNat_le]
  unfold ofListing
  rw [toNat_wholeOfHalves]
  show 1 ≤ _
  omega

/-- More lines are not less complex. -/
theorem ofListing_le_of_sublist {lines lines' : List SourceLine} (h : lines.Sublist lines') :
    ofListing weights lines ≤ ofListing weights lines' := by
  have hhalves : listingHalves weights lines ≤ listingHalves weights lines' :=
    total_le_of_sublist ((h.filter _).map _)
  rw [UInt32.le_iff_toNat_le]
  unfold ofListing
  rw [toNat_wholeOfHalves, toNat_wholeOfHalves]
  omega

/-! ### Blocks -/

/-- The complexity of the text of a block is that of its lines. -/
theorem complexity_blockText {style : CommentStyle} {text : List Char}
    (htext : ¬ ['\r', '\r', '\n'] <:+: text) {s : Nat} {line : SourceLine}
    (hline : (listing style text)[s]? = some line) (hcode : line.isCode = true) (span : Nat) :
    complexity style weights (blockText span ((listing style text).drop s))
      = ofListing weights (((listing style text).drop s).take (span + 1)) := by
  unfold complexity
  rw [listing_blockText htext hline hcode]
  apply ofListing_congr
  have hempty : ∀ l ∈ ((listing style text).drop s).take (span + 1),
      l.raw = [] → l.isCode = false := by
    intro l hl hraw
    have hmem : l ∈ listing style text := List.mem_of_mem_drop (List.mem_of_mem_take hl)
    exact isCode_eq_false_of_raw_eq_nil hmem hraw
  conv => rhs; rw [← codeLines_withoutEmptyLast hempty]
  -- Numbers do not matter.
  unfold codeLines
  rw [List.filter_map, List.map_map]
  rfl

end SourceReview.Score
