import SourceReview.Outline.Script
import SourceReview.Proofs.Listing.Bounds

/-!
# Depths of lines and the ends of blocks

In JavaScript, braces are counted twice. The depth of a line is counted from the beginning of the
text, and falls below zero where more braces are closed than opened. The end of a block is searched
from the line that begins it, with a count of its own. The two agree (`braceSpan_eq_findIdx`): from
a line that holds an opening brace, the block goes on up to the first line whose depth is back to
that of the line, or lower. `block_ends_where_depth_returns` says so for every text, and that these
depths are the ones by which classes and functions are found.
-/

namespace SourceReview.Script

/-! ### Depths along a listing -/

@[simp]
theorem length_depthsFrom (depth : Int) (lines : List SourceLine) :
    (depthsFrom depth lines).length = lines.length := by
  induction lines generalizing depth with
  | nil => rfl
  | cons line lines ih => rw [depthsFrom, List.length_cons, List.length_cons, ih]

/-- The depths from a line on are counted from the depth of this line. -/
theorem drop_depthsFrom {depth base : Int} {lines : List SourceLine} {a : Nat}
    (h : (depthsFrom depth lines)[a]? = some base) :
    (depthsFrom depth lines).drop a = depthsFrom base (lines.drop a) := by
  induction lines generalizing depth a with
  | nil => cases h
  | cons line lines ih =>
    cases a with
    | zero =>
      cases h
      rfl
    | succ a => exact ih h

/-- A class is found in a line of the listing, and its body is one deeper than this line. -/
theorem exists_of_mem_classesFrom {depth body : Int} {lines : List SourceLine} {c : ClassEntry}
    (h : (c, body) ∈ classesFrom depth lines) :
    ∃ a l base, lines[a]? = some l ∧ (depthsFrom depth lines)[a]? = some base ∧
      body = base + 1 ∧ c.line = l.number ∧ c.endLine = l.number + braceSpan (lines.drop a) := by
  induction lines generalizing depth with
  | nil => exact absurd h List.not_mem_nil
  | cons line lines ih =>
    have hlater : (c, body) ∈ classesFrom (depth + braceBalance line.code) lines →
        ∃ a l base, (line :: lines)[a]? = some l ∧
          (depthsFrom depth (line :: lines))[a]? = some base ∧ body = base + 1 ∧
          c.line = l.number ∧ c.endLine = l.number + braceSpan ((line :: lines).drop a) := by
      intro hmem
      obtain ⟨a, hfound⟩ := ih hmem
      exact ⟨a + 1, hfound⟩
    rw [classesFrom] at h
    dsimp only at h
    split at h
    · exact hlater h
    · split at h
      · rcases List.mem_cons.1 h with heq | hmem
        · cases heq
          exact ⟨0, line, depth, rfl, rfl, rfl, rfl, rfl⟩
        · exact hlater hmem
      · exact hlater h

/-- A function is found in a line of the listing by the depth of this line. -/
theorem exists_of_mem_functionsFrom {classes : List (ClassEntry × Int)} {depth : Int}
    {lines : List SourceLine} {f : FunctionEntry} (h : f ∈ functionsFrom classes depth lines) :
    ∃ a l base head, lines[a]? = some l ∧ (depthsFrom depth lines)[a]? = some base ∧
      functionHead? classes base l (lines.drop a) = some head ∧ f.line = l.number ∧
      f.endLine = l.number + head.span := by
  induction lines generalizing depth with
  | nil => exact absurd h List.not_mem_nil
  | cons line lines ih =>
    have hlater : f ∈ functionsFrom classes (depth + braceBalance line.code) lines →
        ∃ a l base head, (line :: lines)[a]? = some l ∧
          (depthsFrom depth (line :: lines))[a]? = some base ∧
          functionHead? classes base l ((line :: lines).drop a) = some head ∧
          f.line = l.number ∧ f.endLine = l.number + head.span := by
      intro hmem
      obtain ⟨a, hfound⟩ := ih hmem
      exact ⟨a + 1, hfound⟩
    rw [functionsFrom] at h
    split at h
    · exact hlater h
    · split at h
      · rename_i head hhead
        rcases List.mem_cons.1 h with rfl | hmem
        · exact ⟨0, line, depth, head, rfl, rfl, hhead, rfl, rfl⟩
        · exact hlater hmem
      · exact hlater h

/-! ### Blocks -/

theorem findIdx_depthsFrom_of_le {base depth : Int} (h : depth ≤ base) (lines : List SourceLine) :
    (depthsFrom depth lines).findIdx (· ≤ base) = 0 := by
  cases lines with
  | nil => rfl
  | cons line lines => rw [depthsFrom, List.findIdx_cons, decide_eq_true h, cond_true]

/-- In an open block that has gone `count` braces deeper than `base`, the search goes on up to the
first line that is not deeper than `base`. -/
theorem braceSpanFrom_eq_findIdx (base : Int) {count : Int} (hcount : 0 < count) (passed : Nat)
    (lines : List SourceLine) :
    braceSpanFrom (passed + 1) count true lines
      = passed + (depthsFrom (base + count) lines).findIdx (· ≤ base) := by
  -- `count` changes from line to line and stays positive, since the search ends where it does not.
  induction lines generalizing count passed with
  | nil => rfl
  | cons line lines ih =>
    have hdeeper : decide (base + count ≤ base) = false := decide_eq_false (by omega)
    rw [braceSpanFrom, depthsFrom, List.findIdx_cons, hdeeper, cond_false, Int.add_assoc]
    simp only [Bool.true_or, if_true]
    split
    · rename_i hclosed
      rw [findIdx_depthsFrom_of_le (by omega)]
    · rename_i hstill
      rw [ih (Int.not_le.1 hstill)]
      omega

/-- **The two counts of braces agree**: a block that is opened in its first line goes on up to the
first line that is not deeper than the first, or to the last one if there is none. -/
theorem braceSpan_eq_findIdx (base : Int) {head : SourceLine} (hopen : '{' ∈ head.code)
    (rest : List SourceLine) :
    braceSpan (head :: rest)
      = (depthsFrom (base + braceBalance head.code) rest).findIdx (· ≤ base) := by
  have hopened : (false || head.code.contains '{') = true := by simpa using hopen
  rw [braceSpan, braceSpanFrom]
  simp only [hopened, if_true, Int.zero_add]
  split
  · rename_i hclosed
    rw [findIdx_depthsFrom_of_le (by omega)]
  · rename_i hstill
    rw [braceSpanFrom_eq_findIdx base (Int.not_le.1 hstill), Nat.zero_add]

/-- The lines after `a` up to `e` are deeper than `base`, and then the depth is back: `e` stands
before the first line after `a` that is not deeper, or is the last line if there is none. -/
structure EndsBeforeReturn (depths : List Int) (base : Int) (a e : Nat) : Prop where
  deeper : ∀ i, a < i → i ≤ e → ∃ depth, depths[i]? = some depth ∧ base + 1 ≤ depth
  back : e + 1 < depths.length → ∃ depth, depths[e + 1]? = some depth ∧ depth ≤ base
  first : ∀ i depth, a < i → depths[i]? = some depth → depth ≤ base → e + 1 ≤ i
  last : (∀ i depth, a < i → depths[i]? = some depth → base < depth) → e + 1 = depths.length

theorem endsBeforeReturn_findIdx {depths : List Int} {base : Int} {a : Nat}
    (ha : a < depths.length) :
    EndsBeforeReturn depths base a (a + (depths.drop (a + 1)).findIdx (· ≤ base)) := by
  -- From here on, places are counted from the line after `a`.
  have hlength : (depths.drop (a + 1)).length = depths.length - (a + 1) := List.length_drop
  have hafter : ∀ j, (depths.drop (a + 1))[j]? = depths[a + 1 + j]? := fun j => List.getElem?_drop
  generalize depths.drop (a + 1) = after at *
  have hle : after.findIdx (· ≤ base) ≤ after.length := List.findIdx_le_length
  constructor
  · intro i hlt hi
    have hearlier : i - (a + 1) < after.findIdx (· ≤ base) := by omega
    have hget := hafter (i - (a + 1))
    rw [List.getElem?_eq_getElem (by omega), Nat.add_sub_cancel' hlt] at hget
    exact ⟨_, hget.symm, Int.not_le.1 (of_decide_eq_false (List.not_of_lt_findIdx hearlier))⟩
  · intro hlt
    have hin : after.findIdx (· ≤ base) < after.length := by omega
    have hget := hafter (after.findIdx (· ≤ base))
    rw [List.getElem?_eq_getElem hin, Nat.add_right_comm] at hget
    exact ⟨_, hget.symm, of_decide_eq_true (List.findIdx_getElem (w := hin))⟩
  · intro i depth hlt hdepth hback
    rw [← Nat.add_sub_cancel' hlt, ← hafter] at hdepth
    obtain ⟨hin, hget⟩ := List.getElem?_eq_some_iff.1 hdepth
    by_cases hearlier : i - (a + 1) < after.findIdx (· ≤ base)
    · have hdeeper := of_decide_eq_false (List.not_of_lt_findIdx hearlier)
      rw [hget] at hdeeper
      exact absurd hback hdeeper
    · omega
  · intro hdeeper
    have hnone : after.findIdx (· ≤ base) = after.length := by
      rw [List.findIdx_eq_length]
      intro depth hmem
      obtain ⟨j, hj⟩ := List.mem_iff_getElem?.1 hmem
      rw [hafter] at hj
      exact decide_eq_false (Int.not_le.2 (hdeeper _ depth (by omega) hj))
    omega

/-- The block of a line that holds an opening brace, and the depths of a listing. -/
theorem endsBeforeReturn_braceSpan {depth : Int} {lines : List SourceLine} {a : Nat}
    {l : SourceLine} (hl : lines[a]? = some l) (hopen : '{' ∈ l.code) :
    ∃ base, (depthsFrom depth lines)[a]? = some base ∧
      EndsBeforeReturn (depthsFrom depth lines) base a (a + braceSpan (lines.drop a)) := by
  obtain ⟨ha, hget⟩ := List.getElem?_eq_some_iff.1 hl
  have ha' : a < (depthsFrom depth lines).length := by rwa [length_depthsFrom]
  have hbase := List.getElem?_eq_getElem ha'
  refine ⟨_, hbase, ?_⟩
  have hdrop : lines.drop a = l :: lines.drop (a + 1) := by
    rw [List.drop_eq_getElem_cons ha, hget]
  have hafter : (depthsFrom depth lines).drop (a + 1)
      = depthsFrom ((depthsFrom depth lines)[a] + braceBalance l.code) (lines.drop (a + 1)) := by
    have htail := congrArg (List.drop 1) (drop_depthsFrom hbase)
    rw [List.drop_drop, hdrop, depthsFrom, List.drop_one, List.tail_cons] at htail
    exact htail
  rw [hdrop, braceSpan_eq_findIdx _ hopen, ← hafter]
  exact endsBeforeReturn_findIdx ha'

/-- **A block ends where the depth is back**, for every text. From a line that holds an opening
brace, all lines of the block are deeper than this line, and the line after the block is the first
one that is not; if all lines are deeper up to the end of the text, the block ends there. The depths
are those by which the outline finds classes and functions: the body of a class is one deeper than
its first line, and a line is taken for a method by its own depth. -/
theorem block_ends_where_depth_returns (text : List Char) :
    let lines := listing .slashes text
    let depths := depthsFrom 0 lines
    depths.length = lines.length ∧
    (∀ a l, lines[a]? = some l → '{' ∈ l.code →
      ∃ base, depths[a]? = some base ∧
        EndsBeforeReturn depths base a (a + braceSpan (lines.drop a))) ∧
    (∀ c body, (c, body) ∈ classesFrom 0 lines →
      ∃ a, c.line = a + 1 ∧ depths[a]? = some (body - 1) ∧
        c.endLine = a + braceSpan (lines.drop a) + 1) ∧
    ∀ f ∈ functionsFrom (classesFrom 0 lines) 0 lines,
      ∃ a l base head, f.line = a + 1 ∧ lines[a]? = some l ∧ depths[a]? = some base ∧
        functionHead? (classesFrom 0 lines) base l (lines.drop a) = some head ∧
        f.endLine = a + head.span + 1 := by
  intro lines depths
  refine ⟨length_depthsFrom 0 lines, ?_, ?_, ?_⟩
  · intro a l hl hopen
    exact endsBeforeReturn_braceSpan hl hopen
  · intro c body hmem
    obtain ⟨a, l, base, hl, hbase, hbody, hline, hend⟩ := exists_of_mem_classesFrom hmem
    have hnumber := number_of_getElem?_listing hl
    refine ⟨a, by omega, ?_, by omega⟩
    rw [hbase, hbody, Int.add_sub_cancel]
  · intro f hmem
    obtain ⟨a, l, base, head, hl, hbase, hhead, hline, hend⟩ := exists_of_mem_functionsFrom hmem
    have hnumber := number_of_getElem?_listing hl
    exact ⟨a, l, base, head, by omega, hl, hbase, hhead, by omega⟩

/-- A class after a closing brace that nothing has opened, with a method whose braces stand on lines
of their own. -/
theorem block_ends_where_depth_returns_unbalanced :
    let text := "\x7d\nclass A \x7b\n  f(x)\n  \x7b\n  \"\x7b\"; \x7d // \x7b\n\x7d\nh();\n".toList
    let depths := depthsFrom 0 (listing .slashes text)
    depths = [0, -1, 0, 0, 1, 0, -1] ∧ EndsBeforeReturn depths (-1) 1 5 := by
  intro text depths
  have hdepths : depths = [0, -1, 0, 0, 1, 0, -1] := by decide
  have hspan : braceSpan ((listing .slashes text).drop 1) = 4 := by decide
  have hcode : (listing .slashes text)[1]?.map (·.code) = some "class A \x7b".toList := by decide
  obtain ⟨l, hl, hopen⟩ := Option.map_eq_some_iff.1 hcode
  obtain ⟨-, hblock, -⟩ := block_ends_where_depth_returns text
  obtain ⟨base, hbase, hends⟩ := hblock 1 l hl (by rw [hopen]; decide)
  have hlevel : base = -1 := by
    have hat : depths[1]? = some base := hbase
    rw [hdepths] at hat
    exact (Option.some.inj hat).symm
  rw [hspan, hlevel] at hends
  exact ⟨hdepths, hends⟩

end SourceReview.Script
