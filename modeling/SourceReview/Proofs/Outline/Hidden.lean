import Mathlib.Data.List.Forall2
import SourceReview.Proofs.Listing.Bounds
import SourceReview.Proofs.Outline.Complexity

/-!
# What an outline does not see

Quotations and comments are blanked before an outline is taken, so what they hold should not matter
for it. Take two texts whose listings agree in the code, the kind and the indentation of every line
(`SourceLine.Alike`). Then the classes of their outlines are the same, and so are the functions up to
the number of their parameters (`outlines_of_alike_texts`).

Parameters are another matter. Python, Java and PHP count them in the signature as it is written, so
that a comma in a quotation or comment counts there; the other languages count them in the code.

A line is veiled if nothing is left of its raw text but the indentation (`SourceLine.veiled`). An
outline of veiled lines has everything but complexities and such parameters; complexities are known
to be those of the code.
-/

namespace SourceReview

/-! ### Lines without their raw text -/

namespace SourceLine

/-- Two lines agree in their code, their kind and their indentation. -/
def Alike (a b : SourceLine) : Prop :=
  a.code = b.code ∧ a.isComment = b.isComment ∧ a.isBlank = b.isBlank ∧ a.indent = b.indent

instance (a b : SourceLine) : Decidable (a.Alike b) := inferInstanceAs (Decidable (_ ∧ _))

/-- The line with nothing left of its raw text but the width of the indentation. -/
def veiled (l : SourceLine) : SourceLine := { l with raw := List.replicate l.indent ' ' }

@[simp] theorem number_veiled (l : SourceLine) : l.veiled.number = l.number := rfl

@[simp] theorem code_veiled (l : SourceLine) : l.veiled.code = l.code := rfl

@[simp] theorem isCode_veiled (l : SourceLine) : l.veiled.isCode = l.isCode := rfl

@[simp] theorem isBlank_veiled (l : SourceLine) : l.veiled.isBlank = l.isBlank := rfl

theorem indentation_replicate (n : Nat) : indentation (List.replicate n ' ') = n := by
  have hblank : Text.isBlank ' ' = true := by decide
  unfold indentation
  rw [List.takeWhile_replicate, if_pos hblank, List.map_replicate]
  induction n with
  | zero => rfl
  | succ n ih =>
    rw [List.replicate_succ, total_cons, ih]
    exact Nat.add_comm 1 n

@[simp] theorem indent_veiled (l : SourceLine) : l.veiled.indent = l.indent :=
  indentation_replicate _

/-- Veiling leaves the same of lines that are alike. -/
theorem Alike.veiled_eq {a b : SourceLine} (h : a.Alike b) (hnumber : a.number = b.number) :
    a.veiled = b.veiled := by
  obtain ⟨hcode, hcomment, hblank, hindent⟩ := h
  have hkind : a.kind = b.kind := by
    unfold isComment at hcomment
    unfold isBlank at hblank
    cases ha : a.kind <;> cases hb : b.kind <;> simp [ha, hb] at hcomment hblank ⊢
  unfold veiled
  rw [hnumber, hcode, hkind, hindent]

end SourceLine

open SourceLine

theorem map_veiled_eq {lines lines' : List SourceLine} (h : List.Forall₂ Alike lines lines')
    (hnumber : lines.map (·.number) = lines'.map (·.number)) :
    lines.map veiled = lines'.map veiled := by
  induction h with
  | nil => rfl
  | cons ha _ ih =>
    obtain ⟨hfirst, hrest⟩ := List.cons.inj hnumber
    rw [List.map_cons, List.map_cons, ha.veiled_eq hfirst, ih hrest]

/-- Veiling leaves the same of listings whose lines are alike. -/
theorem map_veiled_listing {style : CommentStyle} {text text' : List Char}
    (h : List.Forall₂ Alike (listing style text) (listing style text')) :
    (listing style text).map veiled = (listing style text').map veiled := by
  apply map_veiled_eq h
  have hlength := h.length_eq
  rw [length_listing, length_listing] at hlength
  rw [map_number_listing, map_number_listing, hlength]

theorem braceSpanFrom_veiled (passed : Nat) (depth : Int) (opened : Bool)
    (lines : List SourceLine) :
    braceSpanFrom passed depth opened (lines.map veiled)
      = braceSpanFrom passed depth opened lines := by
  induction lines generalizing passed depth opened with
  | nil => rfl
  | cons line lines ih => simp only [List.map_cons, braceSpanFrom, code_veiled, ih]

theorem braceSpan_veiled (lines : List SourceLine) :
    braceSpan (lines.map veiled) = braceSpan lines :=
  braceSpanFrom_veiled 0 0 false lines

theorem indentSpanFrom_veiled (base last passed : Nat) (lines : List SourceLine) :
    indentSpanFrom base last passed (lines.map veiled) = indentSpanFrom base last passed lines := by
  induction lines generalizing last passed with
  | nil => rfl
  | cons line lines ih =>
    simp only [List.map_cons, indentSpanFrom, isBlank_veiled, indent_veiled, ih]

theorem indentSpan_veiled (lines : List SourceLine) :
    indentSpan (lines.map veiled) = indentSpan lines := by
  cases lines with
  | nil => rfl
  | cons head lines => simp only [List.map_cons, indentSpan, indent_veiled, indentSpanFrom_veiled]

theorem Script.arrowSpan_veiled (lines : List SourceLine) :
    arrowSpan (lines.map veiled) = arrowSpan lines := by
  cases lines with
  | nil => rfl
  | cons head lines =>
    have hspan := braceSpan_veiled (head :: lines)
    rw [List.map_cons] at hspan
    simp only [List.map_cons, arrowSpan, List.head?_cons, code_veiled, hspan]

theorem Score.ofListing_veiled (weights : List Weight) (lines : List SourceLine) :
    ofListing weights (lines.map veiled) = ofListing weights lines := by
  apply ofListing_congr
  unfold codeLines
  rw [List.filter_map, List.map_map]
  rfl

/-! ### What is seen of an outline -/

/-- The function without its complexity, and without its parameters unless they are kept. -/
def FunctionEntry.seen (keepsParameters : Bool) (f : FunctionEntry) : FunctionEntry :=
  { f with complexity := 0, parameters := if keepsParameters then f.parameters else 0 }

/-- The classes and functions of an outline, the latter without their complexity, and without their
parameters unless they are kept. -/
def Outline.seen (keepsParameters : Bool) (o : Outline) : Outline :=
  { functions := o.functions.map (·.seen keepsParameters), classes := o.classes }

namespace Outline

variable {keepsParameters : Bool}

theorem seen_concat (parts : List Outline) :
    (concat parts).seen keepsParameters = concat (parts.map (·.seen keepsParameters)) := by
  unfold seen concat
  simp [List.map_flatMap, List.flatMap_map]

/-- Methods are counted by their lines alone. -/
theorem isMethodOf_seen (o : Outline) (i : Nat) (f : FunctionEntry) :
    (o.seen keepsParameters).isMethodOf i (f.seen keepsParameters) = o.isMethodOf i f := by
  have hnested : ∀ c : ClassEntry, (o.seen keepsParameters).isNested c (f.seen keepsParameters)
      = o.isNested c f := by
    intro c
    unfold isNested seen
    rw [List.any_map]
    rfl
  have howner : (o.seen keepsParameters).owner? (f.seen keepsParameters) = o.owner? f := rfl
  unfold isMethodOf
  simp only [howner, hnested]

theorem seen_withMethodCounts (o : Outline) :
    o.withMethodCounts.seen keepsParameters
      = (o.seen keepsParameters).withMethodCounts := by
  have hcount : ∀ i, (o.seen keepsParameters).functions.countP
      ((o.seen keepsParameters).isMethodOf i) = o.functions.countP (o.isMethodOf i) := by
    intro i
    show (o.functions.map _).countP _ = _
    rw [List.countP_map]
    apply List.countP_congr
    intro f _
    rw [Function.comp, isMethodOf_seen]
  unfold withMethodCounts
  simp only [hcount]
  rfl

end Outline

/-! ### Languages that look at each line of code by itself -/

theorem map_seen_eachCode {keepsParameters : Bool}
    {lineOutline : SourceLine → List SourceLine → Outline}
    (hline : ∀ head rest, (lineOutline head.veiled ((head :: rest).map veiled)).seen keepsParameters
      = (lineOutline head (head :: rest)).seen keepsParameters) (lines : List SourceLine) :
    (eachCode lineOutline (lines.map veiled)).map (·.seen keepsParameters)
      = (eachCode lineOutline lines).map (·.seen keepsParameters) := by
  induction lines with
  | nil => rfl
  | cons line lines ih =>
    have hhead := hline line lines
    rw [List.map_cons] at hhead
    rw [List.map_cons, eachCode, eachCode, isCode_veiled]
    split
    · rw [List.map_cons, List.map_cons, hhead, ih]
    · exact ih

theorem seen_concat_eachCode {keepsParameters : Bool}
    {lineOutline : SourceLine → List SourceLine → Outline}
    (hline : ∀ head rest, (lineOutline head.veiled ((head :: rest).map veiled)).seen keepsParameters
      = (lineOutline head (head :: rest)).seen keepsParameters) (lines : List SourceLine) :
    (Outline.concat (eachCode lineOutline (lines.map veiled))).withMethodCounts.seen keepsParameters
      = (Outline.concat (eachCode lineOutline lines)).withMethodCounts.seen keepsParameters := by
  rw [Outline.seen_withMethodCounts, Outline.seen_withMethodCounts, Outline.seen_concat,
    Outline.seen_concat, map_seen_eachCode hline]

theorem Python.seen_lineOutline (head : SourceLine) (rest : List SourceLine) :
    (lineOutline head.veiled ((head :: rest).map veiled)).seen false
      = (lineOutline head (head :: rest)).seen false := by
  unfold lineOutline
  rw [code_veiled]
  split
  · unfold functionOutline
    rw [indentSpan_veiled]
    rfl
  · split
    · unfold classOutline
      rw [indentSpan_veiled]
      rfl
    · split
      · rfl
      · split <;> rfl

theorem Java.seen_lineOutline (head : SourceLine) (rest : List SourceLine) :
    (lineOutline head.veiled ((head :: rest).map veiled)).seen false
      = (lineOutline head (head :: rest)).seen false := by
  unfold lineOutline
  rw [code_veiled, braceSpan_veiled]
  split
  · rfl
  · split
    · rfl
    · split <;> rfl

theorem Php.seen_lineOutline (head : SourceLine) (rest : List SourceLine) :
    (lineOutline head.veiled ((head :: rest).map veiled)).seen false
      = (lineOutline head (head :: rest)).seen false := by
  unfold lineOutline
  rw [code_veiled, braceSpan_veiled]
  split
  · rfl
  · split
    · rfl
    · split
      · rfl
      · -- The raw line is searched for inclusions, which are imports.
        split <;> split <;> rfl

/-! ### Go -/

namespace Go

theorem seen_declaration (head : SourceLine) (rest : List SourceLine) :
    (declaration head.veiled ((head :: rest).map veiled)).outline.seen true
        = (declaration head (head :: rest)).outline.seen true ∧
      (declaration head.veiled ((head :: rest).map veiled)).receiver
        = (declaration head (head :: rest)).receiver := by
  unfold declaration
  rw [code_veiled, braceSpan_veiled]
  split
  · exact ⟨rfl, rfl⟩
  · split <;> exact ⟨rfl, rfl⟩

/-- An import is neither a function nor a class. -/
theorem seen_importOutline (pattern : Pattern) (line : SourceLine) :
    (importOutline pattern line).outline.seen true = {} ∧
      (importOutline pattern line).receiver = none := by
  unfold importOutline
  split <;> exact ⟨rfl, rfl⟩

/-- What is seen of a contribution. -/
def Contribution.seen (c : Contribution) : Outline × Option String := (c.outline.seen true, c.receiver)

theorem map_seen_contributions (inImports : Bool) (lines : List SourceLine) :
    (contributions inImports (lines.map veiled)).map (·.seen)
      = (contributions inImports lines).map (·.seen) := by
  have himport : ∀ pattern line, (importOutline pattern line).seen = ({}, none) := by
    intro pattern line
    obtain ⟨houtline, hreceiver⟩ := seen_importOutline pattern line
    exact Prod.ext houtline hreceiver
  induction lines generalizing inImports with
  | nil => rfl
  | cons line lines ih =>
    have hdeclaration : (declaration line.veiled (line.veiled :: lines.map veiled)).seen
        = (declaration line (line :: lines)).seen :=
      Prod.ext (seen_declaration line lines).1 (seen_declaration line lines).2
    rw [List.map_cons, contributions, contributions, isCode_veiled, code_veiled]
    split
    · exact ih _
    · split
      · split
        · exact ih _
        · rw [List.map_cons, List.map_cons, himport, himport, ih]
      · split
        · split
          · exact ih _
          · rw [List.map_cons, List.map_cons, himport, himport, ih]
        · rw [List.map_cons, List.map_cons, hdeclaration, ih]

/-- The outline that contributions make up. -/
def assembled (parts : List Contribution) : Outline :=
  let whole := Outline.concat (parts.map (·.outline))
  { whole with
    classes := whole.classes.map fun c =>
      { c with methodCount := (parts.filterMap (·.receiver)).count c.name } }

theorem seen_assembled (parts : List Contribution) :
    (assembled parts).seen true
      = { functions := (parts.map (·.seen)).flatMap (·.1.functions)
          classes := ((parts.map (·.seen)).flatMap (·.1.classes)).map fun c =>
            { c with methodCount := ((parts.map (·.seen)).filterMap (·.2)).count c.name } } := by
  unfold assembled Outline.seen Outline.concat
  simp only [List.map_flatMap, List.flatMap_map, List.filterMap_map]
  rfl

theorem seen_outline {text text' : List Char}
    (h : (listing .slashes text).map veiled = (listing .slashes text').map veiled) :
    (outline text).seen true = (outline text').seen true := by
  have hparts : (contributions false (listing .slashes text)).map (·.seen)
      = (contributions false (listing .slashes text')).map (·.seen) := by
    rw [← map_seen_contributions, h, map_seen_contributions]
  show (assembled _).seen true = (assembled _).seen true
  rw [seen_assembled, seen_assembled, hparts]

end Go

/-! ### JavaScript and TypeScript -/

namespace Script

theorem classesFrom_veiled (depth : Int) (lines : List SourceLine) :
    classesFrom depth (lines.map veiled) = classesFrom depth lines := by
  induction lines generalizing depth with
  | nil => rfl
  | cons line lines ih =>
    have hspan := braceSpan_veiled (line :: lines)
    rw [List.map_cons] at hspan
    simp only [List.map_cons, classesFrom, isCode_veiled, code_veiled, number_veiled, hspan, ih]

theorem functionHead?_veiled (classes : List (ClassEntry × Int)) (depth : Int) (head : SourceLine)
    (rest : List SourceLine) :
    functionHead? classes depth head.veiled ((head :: rest).map veiled)
      = functionHead? classes depth head (head :: rest) := by
  unfold functionHead?
  simp only [code_veiled, number_veiled, braceSpan_veiled, arrowSpan_veiled]

theorem map_seen_functionsFrom (classes : List (ClassEntry × Int)) (depth : Int)
    (lines : List SourceLine) :
    (functionsFrom classes depth (lines.map veiled)).map (·.seen true)
      = (functionsFrom classes depth lines).map (·.seen true) := by
  induction lines generalizing depth with
  | nil => rfl
  | cons line lines ih =>
    have hhead := functionHead?_veiled classes depth line lines
    rw [List.map_cons] at hhead
    rw [List.map_cons, functionsFrom, functionsFrom, isCode_veiled, code_veiled, hhead]
    split
    · exact ih _
    · split
      · rw [List.map_cons, List.map_cons, ih]
        rfl
      · exact ih _

theorem seen_outline {text text' : List Char}
    (h : (listing .slashes text).map veiled = (listing .slashes text').map veiled) :
    (outline text).seen true = (outline text').seen true := by
  have hclasses : classesFrom 0 (listing .slashes text) = classesFrom 0 (listing .slashes text') := by
    rw [← classesFrom_veiled, h, classesFrom_veiled]
  have hfunctions : ∀ classes, (functionsFrom classes 0 (listing .slashes text)).map (·.seen true)
      = (functionsFrom classes 0 (listing .slashes text')).map (·.seen true) := by
    intro classes
    rw [← map_seen_functionsFrom, h, map_seen_functionsFrom]
  unfold outline
  rw [Outline.seen_withMethodCounts, Outline.seen_withMethodCounts]
  unfold Outline.seen
  rw [hclasses, hfunctions]

end Script

/-! ### Parameters in signatures as they are written -/

namespace Parameters

/-- The text of a list that is `depth + 1` groups deep, up to the bracket that closes it. -/
def upToClosing : Nat → List Char → List Char
  | _, [] => []
  | depth, c :: cs =>
    if isOpening c then c :: upToClosing (depth + 1) cs
    else if isClosing c then
      match depth with
      | 0 => []
      | outer + 1 => c :: upToClosing outer cs
    else c :: upToClosing depth cs

/-- The text of the parameter list of a signature, if it has one. -/
def listText? (signature : List Char) : Option (List Char) :=
  (Text.splitFirst ['('] signature).map fun (_, inside) => upToClosing 0 inside

theorem items_upToClosing (depth : Nat) (cs : List Char) :
    items depth (upToClosing depth cs) = items depth cs := by
  fun_induction upToClosing depth cs with
  | case1 => rfl
  | case2 depth c cs hopening ih => simp only [items, hopening, if_true, ih]
  | case3 c cs hopening hclosing => simp [items, hopening, hclosing]
  | case4 c cs hopening hclosing outer ih => simp [items, hopening, hclosing, ih]
  | case5 depth c cs hopening hclosing ih => simp [items, hopening, hclosing, ih]

/-- Parameters are counted in the text of the list alone. -/
theorem count_eq_of_listText?_eq {s s' : List Char} (h : listText? s = listText? s')
    (ignore : List (List Char)) : count ignore s = count ignore s' := by
  have hcount : ∀ s, count ignore s
      = (listText? s).elim 0 fun text => (items 0 text).countP (isParameter ignore) := by
    intro s
    unfold count listText?
    cases Text.splitFirst ['('] s with
    | none => rfl
    | some split =>
      show _ = (items 0 (upToClosing 0 split.2)).countP _
      rw [items_upToClosing]
  rw [hcount, hcount, h]

end Parameters

/-- The first lines of a function as they are written, `reach` of them at most. -/
def FunctionEntry.signature (reach : Nat) (lines : List SourceLine) (f : FunctionEntry) :
    List Char :=
  blockText (min (reach - 1) (f.endLine - f.line)) (lines.drop (f.line - 1))

/-- An outline of lines has the parameters of the signatures if each line has. -/
theorem parameters_eq_of_eachCode {lineOutline : SourceLine → List SourceLine → Outline}
    {ignore : List (List Char)} {reach : Nat}
    (hline : ∀ head rest, ∀ f ∈ (lineOutline head (head :: rest)).functions,
      f.line = head.number ∧ f.parameters = Parameters.count ignore
        (blockText (min (reach - 1) (f.endLine - f.line)) (head :: rest)))
    {style : CommentStyle} {text : List Char} {f : FunctionEntry}
    (hf : f ∈ (Outline.concat (eachCode lineOutline (listing style text))).functions) :
    f.parameters = Parameters.count ignore (f.signature reach (listing style text)) := by
  obtain ⟨o, ho, hf⟩ := List.mem_flatMap.1 hf
  obtain ⟨head, rest, hsuffix, -, rfl⟩ := exists_suffix_of_mem_eachCode ho
  obtain ⟨hnumber, hparameters⟩ := hline head rest f hf
  unfold FunctionEntry.signature
  rw [hparameters, hnumber, drop_number_of_suffix hsuffix]

theorem Python.parameters_of_mem_lineOutline (head : SourceLine) (rest : List SourceLine) :
    ∀ f ∈ (lineOutline head (head :: rest)).functions,
      f.line = head.number ∧ f.parameters = Parameters.count ["self".toList, "cls".toList]
        (blockText (min (signatureLines - 1) (f.endLine - f.line)) (head :: rest)) := by
  intro f hf
  unfold lineOutline at hf
  split at hf
  · cases List.mem_singleton.1 hf
    exact ⟨rfl, by rw [Nat.add_sub_cancel_left]⟩
  · split at hf
    · exact absurd hf List.not_mem_nil
    · split at hf
      · exact absurd hf List.not_mem_nil
      · split at hf <;> exact absurd hf List.not_mem_nil

theorem Java.parameters_of_mem_lineOutline (head : SourceLine) (rest : List SourceLine) :
    ∀ f ∈ (lineOutline head (head :: rest)).functions,
      f.line = head.number ∧ f.parameters = Parameters.count []
        (blockText (min (signatureLines - 1) (f.endLine - f.line)) (head :: rest)) := by
  intro f hf
  unfold lineOutline at hf
  split at hf
  · exact absurd hf List.not_mem_nil
  · split at hf
    · exact absurd hf List.not_mem_nil
    · split at hf
      · cases List.mem_singleton.1 hf
        exact ⟨rfl, by rw [Nat.add_sub_cancel_left]⟩
      · exact absurd hf List.not_mem_nil

theorem Php.parameters_of_mem_lineOutline (head : SourceLine) (rest : List SourceLine) :
    ∀ f ∈ (lineOutline head (head :: rest)).functions,
      f.line = head.number ∧ f.parameters = Parameters.count []
        (blockText (min (signatureLines - 1) (f.endLine - f.line)) (head :: rest)) := by
  intro f hf
  unfold lineOutline at hf
  split at hf
  · exact absurd hf List.not_mem_nil
  · split at hf
    · cases List.mem_singleton.1 hf
      exact ⟨rfl, by rw [Nat.add_sub_cancel_left]⟩
    · split at hf
      · exact absurd hf List.not_mem_nil
      · split at hf <;> exact absurd hf List.not_mem_nil

/-! ### All known languages -/

namespace Language

/-- The number of lines from which a language takes a signature as it is written, and none if it
takes signatures from the code. -/
def rawSignatureLines (l : Language) : Nat :=
  if l.id = "python" then Python.signatureLines
  else if l.id = "java" then Java.signatureLines
  else if l.id = "php" then Php.signatureLines
  else 0

/-- The outlines of two texts look the same if their veiled listings are. -/
theorem seen_outline {l : Language} (hl : l ∈ known) {text text' : List Char}
    (h : (listing l.comments text).map veiled = (listing l.comments text').map veiled) :
    (l.outline text).seen (l.rawSignatureLines == 0)
      = (l.outline text').seen (l.rawSignatureLines == 0) := by
  have heach : ∀ {keepsParameters : Bool} {style : CommentStyle}
      {lineOutline : SourceLine → List SourceLine → Outline},
      (∀ head rest, (lineOutline head.veiled ((head :: rest).map veiled)).seen keepsParameters
        = (lineOutline head (head :: rest)).seen keepsParameters) →
      (listing style text).map veiled = (listing style text').map veiled →
      (Outline.concat (eachCode lineOutline (listing style text))).withMethodCounts.seen
          keepsParameters
        = (Outline.concat (eachCode lineOutline (listing style text'))).withMethodCounts.seen
          keepsParameters := by
    intro keepsParameters style lineOutline hline h
    rw [← seen_concat_eachCode hline, h, seen_concat_eachCode hline]
  simp only [known, List.mem_cons, List.not_mem_nil, or_false] at hl
  rcases hl with rfl | rfl | rfl | rfl | rfl | rfl
  · exact heach Python.seen_lineOutline h
  · exact Script.seen_outline h
  · exact Script.seen_outline h
  · exact heach Java.seen_lineOutline h
  · exact heach Php.seen_lineOutline h
  · exact Go.seen_outline h

/-- A language that does not take signatures from the code counts parameters in what is written. -/
theorem exists_parameters_eq {l : Language} (hl : l ∈ known) (hraw : l.rawSignatureLines ≠ 0) :
    ∃ ignore, ∀ text, ∀ f ∈ (l.outline text).functions, f.parameters
      = Parameters.count ignore (f.signature l.rawSignatureLines (listing l.comments text)) := by
  simp only [known, List.mem_cons, List.not_mem_nil, or_false] at hl
  rcases hl with rfl | rfl | rfl | rfl | rfl | rfl
  · exact ⟨_, fun _ _ => parameters_eq_of_eachCode Python.parameters_of_mem_lineOutline⟩
  · exact absurd rfl hraw
  · exact absurd rfl hraw
  · exact ⟨_, fun _ _ => parameters_eq_of_eachCode Java.parameters_of_mem_lineOutline⟩
  · exact ⟨_, fun _ _ => parameters_eq_of_eachCode Php.parameters_of_mem_lineOutline⟩
  · exact absurd rfl hraw

/-- Functions of two texts with the same lines have the same complexity. -/
theorem complexity_eq_of_veiled {l : Language} (hl : l ∈ known) {text text' : List Char}
    (htext : ¬ ['\r', '\r', '\n'] <:+: text) (htext' : ¬ ['\r', '\r', '\n'] <:+: text')
    (h : (listing l.comments text).map veiled = (listing l.comments text').map veiled)
    {f f' : FunctionEntry} (hf : f ∈ (l.outline text).functions)
    (hf' : f' ∈ (l.outline text').functions) (hline : f.line = f'.line)
    (hend : f.endLine = f'.endLine) : f.complexity = f'.complexity := by
  have hextract : ∀ lines : List SourceLine, ∀ a b,
      Score.ofListing l.weights (lines.extract a b)
        = Score.ofListing l.weights ((lines.map veiled).extract a b) := by
    intro lines a b
    rw [← Score.ofListing_veiled]
    simp only [List.extract_eq_take_drop, List.map_take, List.map_drop]
  rw [(declared_of_mem_outline hl hf).complexity_eq htext,
    (declared_of_mem_outline hl hf').complexity_eq htext', hextract (listing l.comments text),
    hextract (listing l.comments text'), h, hline, hend]

end Language

/-- Lists with the same image are related one by one if equal images are. -/
theorem forall₂_of_map_eq {α β : Type} {image : α → β} {R : α → α → Prop} {as bs : List α}
    (h : as.map image = bs.map image)
    (hR : ∀ a ∈ as, ∀ b ∈ bs, image a = image b → R a b) : List.Forall₂ R as bs := by
  induction as generalizing bs with
  | nil =>
    cases List.map_eq_nil_iff.1 h.symm
    exact .nil
  | cons a as ih =>
    obtain ⟨b, bs, rfl, hb, hbs⟩ := List.map_eq_cons_iff.1 h.symm
    refine .cons (hR a List.mem_cons_self b List.mem_cons_self hb.symm) (ih hbs.symm ?_)
    intro a' ha' b' hb' himage
    exact hR a' (List.mem_cons_of_mem _ ha') b' (List.mem_cons_of_mem _ hb') himage

/-- **What quotations and comments hold does not matter for functions and classes**, except for the
number of parameters. In a known language, let two texts without two carriage returns before a line
feed have listings that agree line by line in code, kind and indentation. Their outlines have the
same classes, and the same functions one by one, with the same name, lines, complexity and mark of
asynchronous functions. Two functions that correspond have the same number of parameters as well if
the language takes signatures from the code, or if the parameter lists of their signatures are
written the same. -/
theorem outlines_of_alike_texts (l : Language) (hl : l ∈ Language.known) (text text' : List Char)
    (htext : ¬ ['\r', '\r', '\n'] <:+: text) (htext' : ¬ ['\r', '\r', '\n'] <:+: text')
    (halike : List.Forall₂ Alike (listing l.comments text) (listing l.comments text')) :
    let o := l.analyzer.outline text
    let o' := l.analyzer.outline text'
    let reach := l.rawSignatureLines
    o.classes = o'.classes ∧
    List.Forall₂ (fun f f' => { f with parameters := f'.parameters } = f' ∧
      (reach = 0 ∨ Parameters.listText? (f.signature reach (listing l.comments text))
          = Parameters.listText? (f'.signature reach (listing l.comments text')) → f = f'))
      o.functions o'.functions := by
  intro o o' reach
  have hveiled := map_veiled_listing halike
  have hseen : o.seen (reach == 0) = o'.seen (reach == 0) := Language.seen_outline hl hveiled
  constructor
  · show (o.seen (reach == 0)).classes = (o'.seen (reach == 0)).classes
    rw [hseen]
  · have hfunctions : o.functions.map (·.seen (reach == 0))
        = o'.functions.map (·.seen (reach == 0)) := congrArg Outline.functions hseen
    apply forall₂_of_map_eq hfunctions
    intro f hf f' hf' hsame
    obtain ⟨hname, hline, hend, hparameters, -, hasync⟩ := FunctionEntry.mk.inj hsame
    have hcomplexity :=
      Language.complexity_eq_of_veiled hl htext htext' hveiled hf hf' hline hend
    have hbut : { f with parameters := f'.parameters } = f' := by
      rw [hname, hline, hend, hcomplexity, hasync]
    refine ⟨hbut, ?_⟩
    intro hlists
    have hcount : f.parameters = f'.parameters := by
      by_cases hreach : reach = 0
      · simpa [hreach] using hparameters
      · obtain ⟨ignore, hignore⟩ := Language.exists_parameters_eq hl hreach
        rw [hignore text f hf, hignore text' f' hf']
        exact Parameters.count_eq_of_listText?_eq (hlists.resolve_left hreach) ignore
    rw [← hbut, ← hcount]

/-- The statement at two functions that differ in a docstring and in a quotation after their
parameter lists. -/
theorem outlines_of_alike_texts_docstring :
    let text := "def f(a, b):\n    \"\"\"one, (two\"\"\"\n    return \"if, a\"\n".toList
    let text' := "def f(a, b):\n    '''a'''\n    return \"or ),\"\n".toList
    text ≠ text' ∧ List.Forall₂ Alike (listing .hashes text) (listing .hashes text') ∧
      ∃ f f', (Language.python.analyzer.outline text).functions = [f] ∧
        (Language.python.analyzer.outline text').functions = [f'] ∧
        Parameters.listText? (f.signature 6 (listing .hashes text)) = some "a, b".toList ∧
        Parameters.listText? (f'.signature 6 (listing .hashes text')) = some "a, b".toList ∧
        f = f' := by
  intro text text'
  have halike : List.Forall₂ Alike (listing .hashes text) (listing .hashes text') := by decide
  obtain ⟨f, hf, hlist⟩ : ∃ f, (Language.python.analyzer.outline text).functions = [f] ∧
      Parameters.listText? (f.signature 6 (listing .hashes text)) = some "a, b".toList :=
    ⟨⟨"f", 1, 3, 2, 1, false⟩, by decide, by decide⟩
  obtain ⟨f', hf', hlist'⟩ : ∃ f, (Language.python.analyzer.outline text').functions = [f] ∧
      Parameters.listText? (f.signature 6 (listing .hashes text')) = some "a, b".toList :=
    ⟨⟨"f", 1, 3, 2, 1, false⟩, by decide, by decide⟩
  obtain ⟨-, hfunctions⟩ := outlines_of_alike_texts Language.python (by simp [Language.known])
    text text' (by decide) (by decide) halike
  rw [hf, hf'] at hfunctions
  obtain ⟨⟨-, hsame⟩, -⟩ := List.forall₂_cons.1 hfunctions
  exact ⟨by decide, halike, f, f', hf, hf', hlist, hlist', hsame (.inr (hlist.trans hlist'.symm))⟩

/-- A comma in a quotation counts as one between parameters. -/
theorem outlines_of_alike_texts_default :
    let text := "def f(a=\"x,y\"):\n    pass\n".toList
    let text' := "def f(a=\"x y\"):\n    pass\n".toList
    List.Forall₂ Alike (listing .hashes text) (listing .hashes text') ∧
      (Language.python.analyzer.outline text).functions = [⟨"f", 1, 2, 2, 1, false⟩] ∧
      (Language.python.analyzer.outline text').functions = [⟨"f", 1, 2, 1, 1, false⟩] := by
  decide

end SourceReview
