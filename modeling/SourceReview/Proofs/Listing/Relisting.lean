import SourceReview.Listing.Block
import SourceReview.Proofs.Text.Lines

/-!
# Listing a block again

The text of a block can be listed by itself. If the block begins with a line of code, the result is
the block as the listing of the whole text has it, numbered from one (`listing_blockText`), except
that an empty last line is gone.

There are two reasons for it. A line that begins inside a block comment is never a line of code, so
the block begins outside of comments just as a text does (`openAfter_eq_none`). And splitting undoes
joining, unless the text has two carriage returns before a line feed.
-/

namespace SourceReview

/-- The line in a listing that begins `shift` lines later. -/
def SourceLine.renumbered (shift : Nat) (l : SourceLine) : SourceLine :=
  { l with number := l.number - shift }

/-- The lines without the last one if that is empty. -/
def withoutEmptyLast (lines : List SourceLine) : List SourceLine :=
  if lines.getLast?.any (·.raw.isEmpty) then lines.dropLast else lines

/-! ### Listings line by line -/

section listLines

variable (style : CommentStyle)

/-- The mark that closes the block comment which is open after some lines. -/
def openAfter (opens : Option (List Char)) (raws : List (List Char)) : Option (List Char) :=
  raws.foldl (fun opens raw => (readLine style opens raw).opens) opens

theorem length_listLines (number : Nat) (opens : Option (List Char)) (raws : List (List Char)) :
    (listLines style number opens raws).length = raws.length := by
  induction raws generalizing number opens with
  | nil => rfl
  | cons raw raws ih => simp [listLines, ih]

theorem map_raw_listLines (number : Nat) (opens : Option (List Char)) (raws : List (List Char)) :
    (listLines style number opens raws).map (·.raw) = raws := by
  induction raws generalizing number opens with
  | nil => rfl
  | cons raw raws ih => simp [listLines, ih]

theorem getElem?_listLines (number : Nat) (opens : Option (List Char)) (raws : List (List Char))
    (n : Nat) :
    (listLines style number opens raws)[n]? = raws[n]?.map fun raw =>
      let reading := readLine style (openAfter style opens (raws.take n)) raw
      ⟨number + n, raw, reading.code, reading.kind⟩ := by
  induction raws generalizing number opens n with
  | nil => rfl
  | cons raw raws ih =>
    cases n with
    | zero => rfl
    | succ n => simp [listLines, ih, openAfter, Nat.add_assoc, Nat.add_comm 1 n]

theorem take_listLines (number : Nat) (opens : Option (List Char)) (raws : List (List Char))
    (n : Nat) :
    (listLines style number opens raws).take n = listLines style number opens (raws.take n) := by
  induction raws generalizing number opens n with
  | nil => simp [listLines]
  | cons raw raws ih =>
    cases n with
    | zero => rfl
    | succ n => simp [listLines, ih]

theorem drop_listLines (number : Nat) (opens : Option (List Char)) (raws : List (List Char))
    (n : Nat) :
    (listLines style number opens raws).drop n
      = listLines style (number + n) (openAfter style opens (raws.take n)) (raws.drop n) := by
  induction raws generalizing number opens n with
  | nil => simp [listLines]
  | cons raw raws ih =>
    cases n with
    | zero => rfl
    | succ n => simp [listLines, ih, openAfter, Nat.add_assoc, Nat.add_comm 1 n]

theorem dropLast_listLines (number : Nat) (opens : Option (List Char)) (raws : List (List Char)) :
    (listLines style number opens raws).dropLast = listLines style number opens raws.dropLast := by
  rw [List.dropLast_eq_take, List.dropLast_eq_take, take_listLines, length_listLines]

/-- Lines keep what they hold when they are numbered from elsewhere. -/
theorem map_listLines_add (number shift : Nat) (opens : Option (List Char))
    (raws : List (List Char)) :
    (listLines style (number + shift) opens raws).map (SourceLine.renumbered shift)
      = listLines style number opens raws := by
  induction raws generalizing number opens with
  | nil => rfl
  | cons raw raws ih => simp [listLines, SourceLine.renumbered, Nat.add_right_comm number shift 1, ih]

end listLines

/-- A line of a listing is numbered by its position. -/
theorem number_of_getElem?_listing {style : CommentStyle} {text : List Char} {s : Nat}
    {line : SourceLine} (hline : (listing style text)[s]? = some line) : line.number = s + 1 := by
  unfold listing at hline
  rw [getElem?_listLines] at hline
  obtain ⟨raw, -, rfl⟩ := Option.map_eq_some_iff.1 hline
  exact Nat.add_comm 1 s

/-! ### Lines of code -/

/-- A line that begins inside a block comment is not a line of code. -/
theorem kind_readInside_ne_code (closing raw : List Char) :
    (readInside closing raw).kind ≠ .code := by
  unfold readInside
  dsimp only
  split <;> simp

/-- An empty line is blank. -/
theorem kind_readLine_nil (style : CommentStyle) (opens : Option (List Char)) :
    (readLine style opens []).kind = .blank := by
  cases opens <;> rfl

/-- No block comment is open where a line of code begins. -/
theorem openAfter_eq_none {style : CommentStyle} {number : Nat} {opens : Option (List Char)}
    {raws : List (List Char)} {s : Nat} {line : SourceLine}
    (hline : (listLines style number opens raws)[s]? = some line) (hcode : line.isCode = true) :
    openAfter style opens (raws.take s) = none := by
  rw [getElem?_listLines] at hline
  obtain ⟨raw, -, rfl⟩ := Option.map_eq_some_iff.1 hline
  cases hopen : openAfter style opens (raws.take s) with
  | none => rfl
  | some closing =>
    rw [hopen] at hcode
    have hkind : (readInside closing raw).kind = .code := by
      simpa [SourceLine.isCode, readLine] using hcode
    exact absurd hkind (kind_readInside_ne_code closing raw)

/-- From a line of code on, a listing is that of the lines left over. -/
theorem drop_listing {style : CommentStyle} {text : List Char} {s : Nat} {line : SourceLine}
    (hline : (listing style text)[s]? = some line) (hcode : line.isCode = true) :
    (listing style text).drop s = listLines style (1 + s) none ((Text.lines text).drop s) := by
  unfold listing at hline ⊢
  rw [drop_listLines, openAfter_eq_none hline hcode]

/-- **A block of lines of a text, listed by itself, is what it is in the listing of the text.** -/
theorem listing_blockText {style : CommentStyle} {text : List Char}
    (htext : ¬ ['\r', '\r', '\n'] <:+: text) {s : Nat} {line : SourceLine}
    (hline : (listing style text)[s]? = some line) (hcode : line.isCode = true) (span : Nat) :
    listing style (blockText span ((listing style text).drop s))
      = (withoutEmptyLast (((listing style text).drop s).take (span + 1))).map
          (SourceLine.renumbered s) := by
  unfold blockText
  rw [drop_listing hline hcode, take_listLines, map_raw_listLines]
  generalize hraws : ((Text.lines text).drop s).take (span + 1) = raws
  have hjoinable : Text.Joinable raws := by
    subst hraws
    exact (Text.joinable_lines htext).of_isInfix
      ((List.take_prefix _ _).isInfix.trans (List.drop_suffix _ _).isInfix)
  have hlast : (listLines style (1 + s) none raws).getLast?.any (·.raw.isEmpty)
      = raws.getLast?.any List.isEmpty := by
    conv => rhs; rw [← map_raw_listLines style (1 + s) none raws, List.getLast?_map]
    cases (listLines style (1 + s) none raws).getLast? <;> rfl
  unfold listing withoutEmptyLast
  rw [Text.lines_joinLines hjoinable, hlast]
  split
  · rw [dropLast_listLines, map_listLines_add]
  · rw [map_listLines_add]

/-- An empty line is no line of code. -/
theorem isCode_eq_false_of_raw_eq_nil {style : CommentStyle} {number : Nat}
    {opens : Option (List Char)} {raws : List (List Char)} {line : SourceLine}
    (hline : line ∈ listLines style number opens raws) (hraw : line.raw = []) :
    line.isCode = false := by
  obtain ⟨n, hn⟩ := List.mem_iff_getElem?.1 hline
  rw [getElem?_listLines] at hn
  obtain ⟨raw, -, rfl⟩ := Option.map_eq_some_iff.1 hn
  have hnil : raw = [] := hraw
  subst hnil
  simp [SourceLine.isCode, kind_readLine_nil]

/-- Without an empty last line, the lines of code are the same. -/
theorem codeLines_withoutEmptyLast {lines : List SourceLine}
    (h : ∀ l ∈ lines, l.raw = [] → l.isCode = false) :
    codeLines (withoutEmptyLast lines) = codeLines lines := by
  unfold withoutEmptyLast
  split
  · rename_i hlast
    obtain ⟨last, hlast, hraw⟩ := (Option.any_eq_true _ _).1 hlast
    obtain ⟨front, rfl⟩ := List.getLast?_eq_some_iff.1 hlast
    have hcode : last.isCode = false := h last (by simp) (List.isEmpty_iff.1 hraw)
    simp [codeLines, hcode]
  · rfl

end SourceReview
