import SourceReview.Language.Known
import SourceReview.Proofs.Listing.Span

/-!
# Where functions come from

In every known language, a function of an outline is declared in a line of code. It extends over
lines that are there, and its complexity is that of the text of these lines
(`Language.declared_of_mem_outline`). The languages differ in how they walk over a listing: most
look at each line of code by itself, Go keeps track of import blocks and JavaScript of the depth of
braces. In each of them it is enough to see what one line declares.
-/

namespace SourceReview

namespace FunctionEntry

/-- An entry of a function that is declared in the line `head` before the lines `rest`: it extends
over some of these lines, and its complexity is that of their text. -/
structure BeginsAt (style : CommentStyle) (weights : List Score.Weight) (head : SourceLine)
    (rest : List SourceLine) (f : FunctionEntry) : Prop where
  line_eq : f.line = head.number
  line_le : f.line ≤ f.endLine
  endLine_le : f.endLine ≤ f.line + rest.length
  complexity_eq :
    f.complexity = Score.complexity style weights (blockText (f.endLine - f.line) (head :: rest))

/-- An entry of a function that is declared in a line of code of a listing. -/
def Declared (style : CommentStyle) (weights : List Score.Weight) (lines : List SourceLine)
    (f : FunctionEntry) : Prop :=
  ∃ head rest, (head :: rest) <:+ lines ∧ head.isCode = true ∧ f.BeginsAt style weights head rest

variable {style : CommentStyle} {weights : List Score.Weight}

theorem beginsAt_of_span {head : SourceLine} {rest : List SourceLine} {span : Nat}
    (hspan : span ≤ rest.length) (name : String) (parameters : Nat) (isAsync : Bool) :
    BeginsAt style weights head rest
      { name, line := head.number, endLine := head.number + span, parameters, isAsync,
        complexity := Score.complexity style weights (blockText span (head :: rest)) } where
  line_eq := rfl
  line_le := Nat.le_add_right _ _
  endLine_le := Nat.add_le_add_left hspan _
  complexity_eq := by rw [Nat.add_sub_cancel_left]

theorem BeginsAt.declared {head : SourceLine} {rest : List SourceLine} {f : FunctionEntry}
    (h : f.BeginsAt style weights head rest) (hcode : head.isCode = true) :
    Declared style weights (head :: rest) f :=
  ⟨head, rest, List.suffix_rfl, hcode, h⟩

theorem Declared.cons {lines : List SourceLine} {f : FunctionEntry}
    (h : Declared style weights lines f) (line : SourceLine) :
    Declared style weights (line :: lines) f := by
  obtain ⟨head, rest, hsuffix, hf⟩ := h
  exact ⟨head, rest, hsuffix.trans (List.suffix_cons _ _), hf⟩

end FunctionEntry

open FunctionEntry

/-! ### Languages that look at each line of code by itself -/

theorem declared_of_mem_eachCode {style : CommentStyle} {weights : List Score.Weight}
    {lineOutline : SourceLine → List SourceLine → Outline}
    (hline : ∀ head rest, ∀ f ∈ (lineOutline head (head :: rest)).functions,
      f.BeginsAt style weights head rest) {lines : List SourceLine} {f : FunctionEntry}
    (hmem : f ∈ (Outline.concat (eachCode lineOutline lines)).functions) :
    f.Declared style weights lines := by
  obtain ⟨o, ho, hf⟩ := List.mem_flatMap.1 hmem
  obtain ⟨head, rest, hsuffix, hcode, rfl⟩ := exists_suffix_of_mem_eachCode ho
  exact ⟨head, rest, hsuffix, hcode, hline head rest f hf⟩

theorem Python.beginsAt_of_mem_lineOutline (head : SourceLine) (rest : List SourceLine) :
    ∀ f ∈ (lineOutline head (head :: rest)).functions,
      f.BeginsAt .hashes weights head rest := by
  intro f hf
  unfold lineOutline at hf
  split at hf
  · cases List.mem_singleton.1 hf
    exact beginsAt_of_span (indentSpan_le head rest) _ _ _
  · split at hf
    · exact absurd hf List.not_mem_nil
    · split at hf
      · exact absurd hf List.not_mem_nil
      · split at hf <;> exact absurd hf List.not_mem_nil

theorem Java.beginsAt_of_mem_lineOutline (head : SourceLine) (rest : List SourceLine) :
    ∀ f ∈ (lineOutline head (head :: rest)).functions,
      f.BeginsAt .slashes weights head rest := by
  intro f hf
  unfold lineOutline at hf
  split at hf
  · exact absurd hf List.not_mem_nil
  · split at hf
    · exact absurd hf List.not_mem_nil
    · split at hf
      · cases List.mem_singleton.1 hf
        exact beginsAt_of_span (braceSpan_le head rest) _ _ _
      · exact absurd hf List.not_mem_nil

theorem Php.beginsAt_of_mem_lineOutline (head : SourceLine) (rest : List SourceLine) :
    ∀ f ∈ (lineOutline head (head :: rest)).functions,
      f.BeginsAt .slashesAndHashes weights head rest := by
  intro f hf
  unfold lineOutline at hf
  split at hf
  · exact absurd hf List.not_mem_nil
  · split at hf
    · cases List.mem_singleton.1 hf
      exact beginsAt_of_span (braceSpan_le head rest) _ _ _
    · split at hf
      · exact absurd hf List.not_mem_nil
      · split at hf <;> exact absurd hf List.not_mem_nil

/-! ### Go -/

namespace Go

theorem beginsAt_of_mem_declaration (head : SourceLine) (rest : List SourceLine) :
    ∀ f ∈ (declaration head (head :: rest)).outline.functions,
      f.BeginsAt .slashes weights head rest := by
  intro f hf
  unfold declaration at hf
  split at hf
  · cases List.mem_singleton.1 hf
    exact beginsAt_of_span (braceSpan_le head rest) _ _ _
  · split at hf <;> exact absurd hf List.not_mem_nil

theorem functions_importOutline (pattern : Pattern) (line : SourceLine) :
    (importOutline pattern line).outline.functions = [] := by
  unfold importOutline
  split <;> rfl

theorem declared_of_mem_contributions {inImports : Bool} {lines : List SourceLine}
    {c : Contribution} (hc : c ∈ contributions inImports lines) {f : FunctionEntry}
    (hf : f ∈ c.outline.functions) : f.Declared .slashes weights lines := by
  fun_induction contributions inImports lines with
  | case1 => exact absurd hc List.not_mem_nil
  | case2 _ line lines _ ih => exact (ih hc).cons line
  | case3 line lines _ _ ih => exact (ih hc).cons line
  | case4 line lines _ _ ih =>
    rcases List.mem_cons.1 hc with rfl | hc
    · rw [functions_importOutline] at hf
      exact absurd hf List.not_mem_nil
    · exact (ih hc).cons line
  | case5 _ line lines _ _ _ _ ih => exact (ih hc).cons line
  | case6 _ line lines _ _ _ _ ih =>
    rcases List.mem_cons.1 hc with rfl | hc
    · rw [functions_importOutline] at hf
      exact absurd hf List.not_mem_nil
    · exact (ih hc).cons line
  | case7 _ line lines hcode _ _ ih =>
    rcases List.mem_cons.1 hc with rfl | hc
    · refine (beginsAt_of_mem_declaration line lines f hf).declared ?_
      simpa using hcode
    · exact (ih hc).cons line

end Go

/-! ### JavaScript and TypeScript -/

namespace Script

theorem span_le_of_functionHead? {classes : List (ClassEntry × Int)} {depth : Int}
    {head : SourceLine} {rest : List SourceLine} {found : FunctionHead}
    (h : functionHead? classes depth head (head :: rest) = some found) :
    found.span ≤ rest.length := by
  unfold functionHead? at h
  split at h
  · cases h
    exact braceSpan_le head rest
  · split at h
    · cases h
      exact arrowSpan_le head rest
    · split at h
      · split at h
        · dsimp only at h
          split at h
          · cases h
          · cases h
            exact braceSpan_le head rest
        · cases h
      · cases h

theorem declared_of_mem_functionsFrom {classes : List (ClassEntry × Int)} {depth : Int}
    {lines : List SourceLine} {f : FunctionEntry} (hf : f ∈ functionsFrom classes depth lines) :
    f.Declared .slashes weights lines := by
  induction lines generalizing depth with
  | nil => exact absurd hf List.not_mem_nil
  | cons line lines ih =>
    rw [functionsFrom] at hf
    split at hf
    · exact (ih hf).cons line
    · rename_i hcode
      split at hf
      · rename_i found hfound
        rcases List.mem_cons.1 hf with rfl | hf
        · refine (beginsAt_of_span (span_le_of_functionHead? hfound) _ _ _).declared ?_
          simpa using hcode
        · exact (ih hf).cons line
      · exact (ih hf).cons line

end Script

/-! ### All known languages -/

/-- **Every function of an outline is declared in a line of code.** -/
theorem Language.declared_of_mem_outline {l : Language} (hl : l ∈ known) {text : List Char}
    {f : FunctionEntry} (hf : f ∈ (l.outline text).functions) :
    f.Declared l.comments l.weights (listing l.comments text) := by
  simp only [known, List.mem_cons, List.not_mem_nil, or_false] at hl
  rcases hl with rfl | rfl | rfl | rfl | rfl | rfl
  · exact declared_of_mem_eachCode Python.beginsAt_of_mem_lineOutline hf
  · exact Script.declared_of_mem_functionsFrom hf
  · exact Script.declared_of_mem_functionsFrom hf
  · exact declared_of_mem_eachCode Java.beginsAt_of_mem_lineOutline hf
  · exact declared_of_mem_eachCode Php.beginsAt_of_mem_lineOutline hf
  · obtain ⟨o, ho, hf⟩ := List.mem_flatMap.1 hf
    obtain ⟨c, hc, rfl⟩ := List.mem_map.1 ho
    exact Go.declared_of_mem_contributions hc hf

end SourceReview
