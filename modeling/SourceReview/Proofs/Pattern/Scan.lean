import SourceReview.Pattern.Search

/-!
# Scanning a line by positions

A scan goes over the characters of a line and counts down those that belong to the latest match.
Seen from the whole line, it does what a reader expects: at each position it takes the preferred
match, if there is one, and goes on where that ends (`scanAt_of_match`); otherwise it goes on at the
next position (`scanAt_of_matchIn?_eq_none`). What stands before a position matters only through
the character right before it.
-/

namespace SourceReview.Pattern

/-- The preferred match at a position of a line. -/
def matchIn? (p : Pattern) (cs : List Char) (pos : Nat) : Option Match :=
  p.matchAt pos (cs.take pos).getLast? (cs.drop pos)

/-- The matches at or after a position of a line, where none before the position reaches beyond
it. -/
def scanAt (p : Pattern) (cs : List Char) (pos : Nat) : List Match :=
  p.scanFrom 0 pos (cs.take pos).getLast? (cs.drop pos)

variable {p : Pattern} {cs : List Char} {pos : Nat}

theorem scan_eq_scanAt (p : Pattern) (cs : List Char) : p.scan cs = p.scanAt cs 0 := rfl

theorem scanAt_of_length_le (h : cs.length ≤ pos) : p.scanAt cs pos = [] := by
  rw [scanAt, List.drop_eq_nil_of_le h]
  rfl

/-- A position beyond the end of the line is as good as the end. -/
theorem scanAt_min (p : Pattern) (cs : List Char) (pos : Nat) :
    p.scanAt cs (min pos cs.length) = p.scanAt cs pos := by
  rcases Nat.le_total pos cs.length with h | h
  · rw [Nat.min_eq_left h]
  · rw [Nat.min_eq_right h, scanAt_of_length_le (Nat.le_refl _), scanAt_of_length_le h]

/-- The character at a position is the one before the next position. -/
theorem getLast?_take_succ (h : pos < cs.length) :
    (cs.take (pos + 1)).getLast? = some cs[pos] := by
  rw [List.take_succ_eq_append_getElem h, List.getLast?_concat]

/-- Passing over what belongs to the latest match leads to the position where it ends. -/
theorem scanFrom_eq_scanAt (p : Pattern) (cs : List Char) (skip pos : Nat) :
    p.scanFrom skip pos (cs.take pos).getLast? (cs.drop pos) = p.scanAt cs (pos + skip) := by
  induction skip generalizing pos with
  | zero => rfl
  | succ skip ih =>
    by_cases h : pos < cs.length
    · rw [List.drop_eq_getElem_cons h]
      show p.scanFrom skip (pos + 1) (some cs[pos]) (cs.drop (pos + 1)) = _
      rw [← getLast?_take_succ h, ih, Nat.add_right_comm, Nat.add_assoc]
    · have hle : cs.length ≤ pos := Nat.not_lt.1 h
      rw [List.drop_eq_nil_of_le hle, scanAt_of_length_le (by omega)]
      rfl

/-- A match that covers something is taken, and the scan goes on where it ends. -/
theorem scanAt_of_match {m : Match} (hpos : pos < cs.length)
    (hm : p.matchIn? cs pos = some m) (hlt : pos < m.span.stop) :
    p.scanAt cs pos = m :: p.scanAt cs m.span.stop := by
  have hstop : pos + 1 + (m.span.stop - pos - 1) = m.span.stop := by omega
  unfold matchIn? at hm
  unfold scanAt
  rw [List.drop_eq_getElem_cons hpos] at hm ⊢
  rw [scanFrom, hm]
  simp only [hlt, if_true]
  rw [← getLast?_take_succ hpos, scanFrom_eq_scanAt, hstop]
  rfl

/-- Where there is no match, the scan goes on at the next position. -/
theorem scanAt_of_matchIn?_eq_none (hm : p.matchIn? cs pos = none) :
    p.scanAt cs pos = p.scanAt cs (pos + 1) := by
  by_cases hpos : pos < cs.length
  · unfold matchIn? at hm
    unfold scanAt
    rw [List.drop_eq_getElem_cons hpos] at hm ⊢
    rw [scanFrom, hm]
    simp only
    rw [getLast?_take_succ hpos]
  · have hle : cs.length ≤ pos := Nat.not_lt.1 hpos
    rw [scanAt_of_length_le hle, scanAt_of_length_le (by omega)]

end SourceReview.Pattern
