import SourceReview.Listing.Tally
import SourceReview.Proofs.Listing.Relisting
import SourceReview.Proofs.Text.Segment

/-!
# Bounds of a listing

The lines of a listing are numbered from one to the number of lines of the text
(`map_number_listing`). Each is code, a comment or blank and no two of these (`total_tally`), and
the code of a line is never longer than its raw text (`length_code_le`): masking replaces characters
one by one or takes them away.
-/

namespace SourceReview

/-! ### Numbers -/

theorem length_listing (style : CommentStyle) (text : List Char) :
    (listing style text).length = (Text.lines text).length :=
  length_listLines style 1 none _

theorem map_number_listLines (style : CommentStyle) (number : Nat) (opens : Option (List Char))
    (raws : List (List Char)) :
    (listLines style number opens raws).map (·.number) = List.range' number raws.length := by
  induction raws generalizing number opens with
  | nil => rfl
  | cons raw raws ih => simp [listLines, ih, List.range'_succ]

/-- The lines are numbered one after the other from one on. -/
theorem map_number_listing (style : CommentStyle) (text : List Char) :
    (listing style text).map (·.number) = List.range' 1 (Text.lines text).length :=
  map_number_listLines style 1 none _

/-- The numbers of the lines of code are strictly increasing. -/
theorem pairwise_number_codeLines (style : CommentStyle) (text : List Char) :
    ((codeLines (listing style text)).map (·.number)).Pairwise (· < ·) := by
  have hall : ((listing style text).map (·.number)).Pairwise (· < ·) := by
    rw [map_number_listing]
    exact List.pairwise_lt_range'
  exact hall.sublist (List.filter_sublist.map _)

/-- A line of a listing is the line of the text that its number says. -/
theorem getElem?_of_mem_listing {style : CommentStyle} {text : List Char} {l : SourceLine}
    (h : l ∈ listing style text) :
    1 ≤ l.number ∧ (listing style text)[l.number - 1]? = some l ∧
      (Text.lines text)[l.number - 1]? = some l.raw := by
  obtain ⟨s, hs⟩ := List.mem_iff_getElem?.1 h
  have hnumber := number_of_getElem?_listing hs
  have hraw : ((listing style text).map (·.raw))[s]? = some l.raw := by simp [hs]
  rw [listing, map_raw_listLines] at hraw
  have hpos : l.number - 1 = s := by omega
  rw [hpos]
  exact ⟨by omega, hs, hraw⟩

theorem number_pos_of_mem_listing {style : CommentStyle} {text : List Char} {l : SourceLine}
    (h : l ∈ listing style text) : 0 < l.number :=
  (getElem?_of_mem_listing h).1

/-- A line and those after it are what is left of the listing before its number. -/
theorem drop_number_of_suffix {style : CommentStyle} {text : List Char} {head : SourceLine}
    {rest : List SourceLine} (h : (head :: rest) <:+ listing style text) :
    (listing style text).drop (head.number - 1) = head :: rest := by
  obtain ⟨before, hlines⟩ := h
  have hhead : (listing style text)[before.length]? = some head := by
    rw [← hlines]
    simp
  rw [number_of_getElem?_listing hhead, Nat.add_sub_cancel, ← hlines, List.drop_left]

theorem number_le_of_mem_listing {style : CommentStyle} {text : List Char} {l : SourceLine}
    (h : l ∈ listing style text) : l.number ≤ (Text.lines text).length := by
  obtain ⟨hpos, -, hraw⟩ := getElem?_of_mem_listing h
  obtain ⟨hlt, -⟩ := List.getElem?_eq_some_iff.1 hraw
  omega

/-! ### Kinds -/

theorem length_code_maskFrom_le (style : CommentStyle) (state : MaskState) (cs : List Char) :
    (maskFrom style state cs).code.length ≤ cs.length := by
  fun_induction maskFrom style state cs with
  | case1 => exact Nat.le_refl 0
  | case2 mark c cs ih | case3 mark cs ih | case4 mark cs _ ih | case5 mark c cs _ _ ih
  | case7 c cs _ ih | case9 c cs _ _ _ ih => exact Nat.succ_le_succ ih
  | case6 skip c cs ih => exact Nat.le_succ_of_le ih
  | case8 c cs | case11 c cs => exact Nat.zero_le _
  | case10 c cs _ _ mark _ length _ ih =>
    -- The whole comment is replaced by one space.
    exact Nat.succ_le_succ ih

/-- What is left of a line after a comment that it closes is shorter than the line. -/
theorem length_trim_rest_le {mark inside rest raw : List Char} {n : Nat}
    (h : Text.splitFirst mark ((Text.trim raw).drop n) = some (inside, rest)) :
    (Text.trim rest).length ≤ raw.length := by
  have hsplit := congrArg List.length (Text.eq_of_splitFirst_eq_some h)
  simp only [List.length_append, List.length_drop] at hsplit
  have hrest := Text.length_trim_le rest
  have hraw := Text.length_trim_le raw
  omega

theorem length_code_readOutside_le (style : CommentStyle) (raw : List Char) :
    (readOutside style raw).code.length ≤ raw.length := by
  unfold readOutside
  dsimp only
  split
  · exact Nat.zero_le _
  · split
    · exact Nat.zero_le _
    · split
      · split
        · rename_i hsplit
          exact Nat.le_trans (length_code_maskFrom_le _ _ _) (length_trim_rest_le hsplit)
        · exact Nat.zero_le _
      · exact length_code_maskFrom_le _ _ _

/-- The code of a line is not longer than the line. -/
theorem length_code_le {style : CommentStyle} {text : List Char} {l : SourceLine}
    (h : l ∈ listing style text) : l.code.length ≤ l.raw.length := by
  obtain ⟨s, hs⟩ := List.mem_iff_getElem?.1 h
  unfold listing at hs
  rw [getElem?_listLines] at hs
  obtain ⟨raw, -, rfl⟩ := Option.map_eq_some_iff.1 hs
  unfold readLine
  dsimp only
  split
  · exact Nat.zero_le _
  · exact length_code_readOutside_le style raw

end SourceReview
