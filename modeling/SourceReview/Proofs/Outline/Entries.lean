import SourceReview.Language.Known
import SourceReview.Proofs.Listing.Bounds
import SourceReview.Proofs.Listing.Span
import SourceReview.Proofs.Outline.Depths
import SourceReview.Proofs.Outline.Methods
import SourceReview.Proofs.Pattern.Runs
import SourceReview.Review.Measure

/-!
# Functions and classes stand in the text

The functions of an outline, and its classes, come in the order of their lines. Each has a name,
begins in a line of code and ends in a line that is there, whatever the text looks like
(`outline_stands_in_text`).

An analyzer walks over a listing and takes at most one function and at most one class out of each
line of code (`Taken`). For each language it is enough to see what it takes out of one line.

Whatever is looked up on the way is there as well: the line in which a block ends
(`block_ends_inside`), the depth of a line, and the class that a function is credited to
(`getElem?_of_owner?`).
-/

namespace SourceReview

/-- What functions and classes have in common: a name, and the lines from the first to the last. -/
structure Entry where
  name : String
  line : Nat
  endLine : Nat

/-- The name and the lines of a function. -/
def FunctionEntry.entry (f : FunctionEntry) : Entry := ⟨f.name, f.line, f.endLine⟩

/-- The name and the lines of a class. -/
def ClassEntry.entry (c : ClassEntry) : Entry := ⟨c.name, c.line, c.endLine⟩

/-- The functions and classes of an outline. -/
def Outline.entries (o : Outline) : List Entry :=
  o.functions.map (·.entry) ++ o.classes.map (·.entry)

/-! ### Entries that are taken out of lines -/

namespace Entry

/-- An entry that begins in the line `head` and ends in it or in one of the lines `rest` after it.
-/
structure BeginsAt (head : SourceLine) (rest : List SourceLine) (e : Entry) : Prop where
  name_ne : e.name ≠ ""
  line_eq : e.line = head.number
  line_le : e.line ≤ e.endLine
  endLine_le : e.endLine ≤ e.line + rest.length

theorem beginsAt_of_span {head : SourceLine} {rest : List SourceLine} {name : String} {span : Nat}
    (hname : name ≠ "") (hspan : span ≤ rest.length) :
    BeginsAt head rest ⟨name, head.number, head.number + span⟩ where
  name_ne := hname
  line_eq := rfl
  line_le := Nat.le_add_right _ _
  endLine_le := Nat.add_le_add_left hspan _

/-- The entries `es` of one line are one that begins there, or none. -/
def AtMostOne (head : SourceLine) (rest : List SourceLine) (es : List Entry) : Prop :=
  es = [] ∨ ∃ e, es = [e] ∧ e.BeginsAt head rest

/-- Entries that are taken out of the lines of code one after the other, at most one of each. -/
inductive Taken : List SourceLine → List Entry → Prop where
  | nil : Taken [] []
  | pass {line lines es} : Taken lines es → Taken (line :: lines) es
  | take {line lines new es} : line.isCode = true → AtMostOne line lines new → Taken lines es →
      Taken (line :: lines) (new ++ es)

/-- The lines of the entries are lines of code, in the same order. -/
theorem Taken.sublist {lines : List SourceLine} {es : List Entry} (h : Taken lines es) :
    (es.map (·.line)).Sublist ((codeLines lines).map (·.number)) := by
  induction h with
  | nil => exact .slnil
  | @pass line lines es _ ih =>
    have hlines : (codeLines lines).Sublist (codeLines (line :: lines)) :=
      (List.sublist_cons_self line lines).filter _
    exact ih.trans (hlines.map _)
  | @take line lines new es hcode hnew _ ih =>
    have hlines : codeLines (line :: lines) = line :: codeLines lines :=
      List.filter_cons_of_pos hcode
    rw [hlines, List.map_cons]
    rcases hnew with rfl | ⟨e, rfl, he⟩
    · exact ih.trans (List.sublist_cons_self _ _)
    · rw [List.singleton_append, List.map_cons, he.line_eq]
      exact ih.cons_cons _

/-- Every entry begins in some line of code. -/
theorem Taken.exists_beginsAt {lines : List SourceLine} {es : List Entry} (h : Taken lines es)
    {e : Entry} (he : e ∈ es) :
    ∃ head rest, (head :: rest) <:+ lines ∧ head.isCode = true ∧ e.BeginsAt head rest := by
  induction h with
  | nil => exact absurd he List.not_mem_nil
  | @pass line lines es _ ih =>
    obtain ⟨head, rest, hsuffix, hhead⟩ := ih he
    exact ⟨head, rest, hsuffix.trans (List.suffix_cons _ _), hhead⟩
  | @take line lines new es hcode hnew _ ih =>
    rcases List.mem_append.1 he with he | he
    · rcases hnew with rfl | ⟨e', rfl, hbegins⟩
      · exact absurd he List.not_mem_nil
      · cases List.mem_singleton.1 he
        exact ⟨line, lines, List.suffix_rfl, hcode, hbegins⟩
    · obtain ⟨head, rest, hsuffix, hhead⟩ := ih he
      exact ⟨head, rest, hsuffix.trans (List.suffix_cons _ _), hhead⟩

/-- An entry of a listing has a name, begins in the line of code that its number says, and ends in a
line that is there. -/
structure StandsIn (lines : List SourceLine) (e : Entry) : Prop where
  name_ne : e.name ≠ ""
  one_le_line : 1 ≤ e.line
  line_le : e.line ≤ e.endLine
  endLine_le : e.endLine ≤ lines.length
  beginsInCode : ∃ head, lines[e.line - 1]? = some head ∧ head.number = e.line ∧ head.isCode = true

theorem Taken.standsIn {style : CommentStyle} {text : List Char} {es : List Entry}
    (h : Taken (listing style text) es) {e : Entry} (he : e ∈ es) :
    e.StandsIn (listing style text) := by
  obtain ⟨head, rest, ⟨before, hlines⟩, hcode, hbegins⟩ := h.exists_beginsAt he
  have hhead : (listing style text)[before.length]? = some head := by
    rw [← hlines]
    simp
  have hline : e.line = before.length + 1 := by
    rw [hbegins.line_eq, number_of_getElem?_listing hhead]
  have hend := hbegins.endLine_le
  refine ⟨hbegins.name_ne, by omega, hbegins.line_le, ?_, head, ?_, hbegins.line_eq.symm, hcode⟩
  · rw [← hlines, List.length_append, List.length_cons]
    omega
  · rw [hline, Nat.add_sub_cancel]
    exact hhead

/-- There are not more entries than lines of code. -/
theorem Taken.length_le {lines : List SourceLine} {es : List Entry} (h : Taken lines es) :
    es.length ≤ (LineTally.ofLines lines).code := by
  have hlength := h.sublist.length_le
  rw [List.length_map, List.length_map] at hlength
  have htally : (LineTally.ofLines lines).code = (codeLines lines).length :=
    List.countP_eq_length_filter
  omega

end Entry

open Entry

/-! ### What one line contributes -/

namespace Outline

/-- An outline with at most one function and at most one class, both of which begin in `head`. -/
structure OfLine (head : SourceLine) (rest : List SourceLine) (o : Outline) : Prop where
  functions : AtMostOne head rest (o.functions.map (·.entry))
  classes : AtMostOne head rest (o.classes.map (·.entry))

namespace OfLine

variable {head : SourceLine} {rest : List SourceLine} {o : Outline}

theorem of_nil (hfunctions : o.functions = []) (hclasses : o.classes = []) : o.OfLine head rest :=
  ⟨.inl (by rw [hfunctions]; rfl), .inl (by rw [hclasses]; rfl)⟩

theorem of_function {f : FunctionEntry} (hfunctions : o.functions = [f]) (hclasses : o.classes = [])
    (hf : f.entry.BeginsAt head rest) : o.OfLine head rest :=
  ⟨.inr ⟨f.entry, by rw [hfunctions]; rfl, hf⟩, .inl (by rw [hclasses]; rfl)⟩

theorem of_class {c : ClassEntry} (hfunctions : o.functions = []) (hclasses : o.classes = [c])
    (hc : c.entry.BeginsAt head rest) : o.OfLine head rest :=
  ⟨.inl (by rw [hfunctions]; rfl), .inr ⟨c.entry, by rw [hclasses]; rfl, hc⟩⟩

end OfLine

/-- An outline whose functions and classes are taken out of the lines one after the other. -/
structure TakenFrom (lines : List SourceLine) (o : Outline) : Prop where
  functions : Taken lines (o.functions.map (·.entry))
  classes : Taken lines (o.classes.map (·.entry))

theorem TakenFrom.standsIn {style : CommentStyle} {text : List Char} {o : Outline}
    (h : o.TakenFrom (listing style text)) {e : Entry} (he : e ∈ o.entries) :
    e.StandsIn (listing style text) := by
  rcases List.mem_append.1 he with he | he
  · exact h.functions.standsIn he
  · exact h.classes.standsIn he

theorem map_entry_functions_concat (parts : List Outline) :
    (concat parts).functions.map (·.entry) = parts.flatMap fun o => o.functions.map (·.entry) :=
  List.map_flatMap

theorem map_entry_classes_concat (parts : List Outline) :
    (concat parts).classes.map (·.entry) = parts.flatMap fun o => o.classes.map (·.entry) :=
  List.map_flatMap

/-- Counting methods does not touch names and lines. -/
theorem map_entry_classes_withMethodCounts (o : Outline) :
    o.withMethodCounts.classes.map (·.entry) = o.classes.map (·.entry) := by
  unfold Outline.withMethodCounts
  rw [List.mapIdx_eq_zipIdx_map, List.map_map]
  conv => rhs; rw [← List.zipIdx_map_fst 0 o.classes, List.map_map]
  rfl

theorem TakenFrom.withMethodCounts {lines : List SourceLine} {o : Outline} (h : o.TakenFrom lines) :
    o.withMethodCounts.TakenFrom lines := by
  refine ⟨h.functions, ?_⟩
  rw [map_entry_classes_withMethodCounts]
  exact h.classes

end Outline

/-- The name that a match remembers is not empty. -/
theorem Pattern.Match.name_ne {p : Pattern} {m : Match} {code : List Char}
    (h : p.find? code = some m) (hp : (p.remembers .name && p.remembersSolid .name) = true) :
    String.ofList ((m.partText? .name code).getD []) ≠ "" := by
  have hp := Bool.and_eq_true_iff.1 hp
  obtain ⟨c, cs, htext⟩ := (fits_of_find? h).partText?_ne_nil hp.1 hp.2
  rw [htext]
  simp

/-! ### Languages that look at each line of code by itself -/

theorem taken_eachCode {lineOutline : SourceLine → List SourceLine → Outline}
    {entries : Outline → List Entry}
    (hline : ∀ head rest, AtMostOne head rest (entries (lineOutline head (head :: rest))))
    (lines : List SourceLine) : Taken lines ((eachCode lineOutline lines).flatMap entries) := by
  induction lines with
  | nil => exact .nil
  | cons line lines ih =>
    rw [eachCode]
    split
    · rename_i hcode
      rw [List.flatMap_cons]
      exact .take hcode (hline line lines) ih
    · exact .pass ih

theorem takenFrom_eachCode {lineOutline : SourceLine → List SourceLine → Outline}
    (hline : ∀ head rest, (lineOutline head (head :: rest)).OfLine head rest)
    (lines : List SourceLine) :
    (Outline.concat (eachCode lineOutline lines)).withMethodCounts.TakenFrom lines := by
  apply Outline.TakenFrom.withMethodCounts
  constructor
  · rw [Outline.map_entry_functions_concat]
    exact taken_eachCode (fun head rest => (hline head rest).functions) lines
  · rw [Outline.map_entry_classes_concat]
    exact taken_eachCode (fun head rest => (hline head rest).classes) lines

theorem Python.ofLine_lineOutline (head : SourceLine) (rest : List SourceLine) :
    (lineOutline head (head :: rest)).OfLine head rest := by
  unfold lineOutline
  split
  · rename_i m hm
    exact .of_function rfl rfl
      (beginsAt_of_span (Pattern.Match.name_ne hm (by decide)) (indentSpan_le head rest))
  · split
    · rename_i m hm
      exact .of_class rfl rfl
        (beginsAt_of_span (Pattern.Match.name_ne hm (by decide)) (indentSpan_le head rest))
    · split
      · exact .of_nil rfl rfl
      · split <;> exact .of_nil rfl rfl

/-- The name of a method is not empty. -/
theorem Java.name_ne_of_methodHead? {code : List Char} {head : MethodHead}
    (h : methodHead? code = some head) : String.ofList head.name ≠ "" := by
  unfold methodHead? at h
  split at h
  · cases h
  · rename_i m hm
    dsimp only at h
    split at h
    · cases h
    · split at h
      · cases h
      · split at h
        · cases h
        · cases h
          exact Pattern.Match.name_ne hm (by decide)

theorem Java.ofLine_lineOutline (head : SourceLine) (rest : List SourceLine) :
    (lineOutline head (head :: rest)).OfLine head rest := by
  unfold lineOutline
  split
  · exact .of_nil rfl rfl
  · split
    · rename_i m hm
      exact .of_class rfl rfl
        (beginsAt_of_span (Pattern.Match.name_ne hm (by decide)) (braceSpan_le head rest))
    · split
      · rename_i found hfound
        exact .of_function rfl rfl
          (beginsAt_of_span (name_ne_of_methodHead? hfound) (braceSpan_le head rest))
      · exact .of_nil rfl rfl

theorem Php.ofLine_lineOutline (head : SourceLine) (rest : List SourceLine) :
    (lineOutline head (head :: rest)).OfLine head rest := by
  unfold lineOutline
  split
  · rename_i m hm
    exact .of_class rfl rfl
      (beginsAt_of_span (Pattern.Match.name_ne hm (by decide)) (braceSpan_le head rest))
  · split
    · rename_i m hm
      exact .of_function rfl rfl
        (beginsAt_of_span (Pattern.Match.name_ne hm (by decide)) (braceSpan_le head rest))
    · split
      · exact .of_nil rfl rfl
      · split <;> exact .of_nil rfl rfl

/-! ### Go -/

namespace Go

theorem ofLine_declaration (head : SourceLine) (rest : List SourceLine) :
    (declaration head (head :: rest)).outline.OfLine head rest := by
  unfold declaration
  split
  · rename_i m hm
    exact .of_function rfl rfl
      (beginsAt_of_span (Pattern.Match.name_ne hm (by decide)) (braceSpan_le head rest))
  · split
    · rename_i m hm
      exact .of_class rfl rfl
        (beginsAt_of_span (Pattern.Match.name_ne hm (by decide)) (braceSpan_le head rest))
    · exact .of_nil rfl rfl

theorem ofLine_importOutline (pattern : Pattern) (head : SourceLine) (rest : List SourceLine) :
    (importOutline pattern head).outline.OfLine head rest := by
  unfold importOutline
  split <;> exact .of_nil rfl rfl

theorem taken_contributions {entries : Outline → List Entry}
    (hline : ∀ head rest o, o.OfLine head rest → AtMostOne head rest (entries o))
    (inImports : Bool) (lines : List SourceLine) :
    Taken lines (((contributions inImports lines).map (·.outline)).flatMap entries) := by
  fun_induction contributions inImports lines with
  | case1 => exact .nil
  | case2 _ line lines _ ih => exact .pass ih
  | case3 line lines _ _ ih => exact .pass ih
  | case4 line lines hcode _ ih =>
    rw [List.map_cons, List.flatMap_cons]
    exact .take (by simpa using hcode) (hline _ _ _ (ofLine_importOutline _ line lines)) ih
  | case5 _ line lines _ _ _ _ ih => exact .pass ih
  | case6 _ line lines hcode _ _ _ ih =>
    rw [List.map_cons, List.flatMap_cons]
    exact .take (by simpa using hcode) (hline _ _ _ (ofLine_importOutline _ line lines)) ih
  | case7 _ line lines hcode _ _ ih =>
    rw [List.map_cons, List.flatMap_cons]
    exact .take (by simpa using hcode) (hline _ _ _ (ofLine_declaration line lines)) ih

theorem takenFrom_outline (text : List Char) :
    (outline text).TakenFrom (listing .slashes text) := by
  unfold outline
  constructor
  · have htaken := taken_contributions (fun _ _ _ h => h.functions) false (listing .slashes text)
    rwa [← Outline.map_entry_functions_concat] at htaken
  · have htaken := taken_contributions (fun _ _ _ h => h.classes) false (listing .slashes text)
    rw [← Outline.map_entry_classes_concat] at htaken
    dsimp only
    rwa [List.map_map]

end Go

/-! ### JavaScript and TypeScript -/

namespace Script

/-- The function that a line declares has a name and extends over lines that are there. -/
theorem name_ne_of_functionHead? {classes : List (ClassEntry × Int)} {depth : Int}
    {head : SourceLine} {rest : List SourceLine} {found : FunctionHead}
    (h : functionHead? classes depth head (head :: rest) = some found) :
    String.ofList found.name ≠ "" ∧ found.span ≤ rest.length := by
  unfold functionHead? at h
  split at h
  · rename_i m hm
    cases h
    exact ⟨Pattern.Match.name_ne hm (by decide), braceSpan_le head rest⟩
  · split at h
    · rename_i m hm
      cases h
      exact ⟨Pattern.Match.name_ne hm (by decide), arrowSpan_le head rest⟩
    · split at h
      · split at h
        · rename_i m hm
          dsimp only at h
          split at h
          · cases h
          · cases h
            exact ⟨Pattern.Match.name_ne hm (by decide), braceSpan_le head rest⟩
        · cases h
      · cases h

theorem taken_functionsFrom (classes : List (ClassEntry × Int)) (depth : Int)
    (lines : List SourceLine) :
    Taken lines ((functionsFrom classes depth lines).map (·.entry)) := by
  induction lines generalizing depth with
  | nil => exact .nil
  | cons line lines ih =>
    rw [functionsFrom]
    split
    · exact .pass (ih _)
    · rename_i hcode
      split
      · rename_i found hfound
        obtain ⟨hname, hspan⟩ := name_ne_of_functionHead? hfound
        rw [List.map_cons]
        exact .take (by simpa using hcode) (.inr ⟨_, rfl, beginsAt_of_span hname hspan⟩) (ih _)
      · exact .pass (ih _)

theorem taken_classesFrom (depth : Int) (lines : List SourceLine) :
    Taken lines ((classesFrom depth lines).map (·.1.entry)) := by
  induction lines generalizing depth with
  | nil => exact .nil
  | cons line lines ih =>
    rw [classesFrom]
    dsimp only
    split
    · exact .pass (ih _)
    · rename_i hcode
      split
      · rename_i m hm
        have hname := Pattern.Match.name_ne hm (by decide)
        rw [List.map_cons]
        exact .take (by simpa using hcode)
          (.inr ⟨_, rfl, beginsAt_of_span hname (braceSpan_le line lines)⟩) (ih _)
      · exact .pass (ih _)

theorem takenFrom_outline (text : List Char) :
    (outline text).TakenFrom (listing .slashes text) := by
  unfold outline
  apply Outline.TakenFrom.withMethodCounts
  constructor
  · exact taken_functionsFrom _ 0 _
  · dsimp only
    rw [List.map_map]
    exact taken_classesFrom 0 _

end Script

/-! ### All known languages -/

/-- **Every known language takes functions and classes out of lines of code, one after the other.**
-/
theorem Language.takenFrom_outline {l : Language} (hl : l ∈ known) (text : List Char) :
    (l.outline text).TakenFrom (listing l.comments text) := by
  simp only [known, List.mem_cons, List.not_mem_nil, or_false] at hl
  rcases hl with rfl | rfl | rfl | rfl | rfl | rfl
  · exact takenFrom_eachCode Python.ofLine_lineOutline _
  · exact Script.takenFrom_outline text
  · exact Script.takenFrom_outline text
  · exact takenFrom_eachCode Java.ofLine_lineOutline _
  · exact takenFrom_eachCode Php.ofLine_lineOutline _
  · exact Go.takenFrom_outline text

end SourceReview
