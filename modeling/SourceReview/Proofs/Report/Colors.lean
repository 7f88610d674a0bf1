import SourceReview.Report.Pretty

/-!
# Colors are presentation only

A report with colors is the one without colors, apart from the control sequences around its styled
pieces (`Report.withoutStyles_pretty`). This holds if nothing else in the report begins a control
sequence: no text of the reviews holds an escape character.

Deleting control sequences goes through a text from left to right and passes over what is free of
escape characters (`withoutStyles_append`), so it can be done piece by piece
(`withoutStyles_render`). What is left is that all pieces of a report are free of escape
characters, those that are made of numbers and fixed words included (`Report.unescaped_pieces`).
-/

namespace SourceReview

/-! ### Deleting control sequences -/

/-- Whether a character can stand between the bracket and the letter of a control sequence. -/
def isStyleCode (c : Char) : Bool := c.isDigit || c == ';'

/-- What follows the control sequence that a text begins with, if it begins with one: an escape
character, a bracket, digits and semicolons, and the letter `m`. -/
def afterStyle? : List Char → Option (List Char)
  | '\x1b' :: '[' :: cs =>
    match cs.dropWhile isStyleCode with
    | 'm' :: rest => some rest
    | _ => none
  | _ => none

theorem length_lt_of_afterStyle? {cs rest : List Char} (h : afterStyle? cs = some rest) :
    rest.length < cs.length := by
  unfold afterStyle? at h
  split at h
  · rename_i cs
    split at h
    · rename_i rest' hdrop
      cases h
      have hle := (List.dropWhile_suffix (l := cs) isStyleCode).length_le
      rw [hdrop] at hle
      simp only [List.length_cons] at hle ⊢
      omega
    · cases h
  · cases h

/-- The text without its control sequences. -/
def withoutStyles (cs : List Char) : List Char :=
  match cs with
  | [] => []
  | c :: cs =>
    match _hstyle : afterStyle? (c :: cs) with
    | some rest => withoutStyles rest
    | none => c :: withoutStyles cs
termination_by cs.length
decreasing_by
  · exact length_lt_of_afterStyle? _hstyle
  · exact Nat.lt_succ_self _

theorem withoutStyles_nil : withoutStyles [] = [] := by rw [withoutStyles]

theorem afterStyle?_cons_of_ne {c : Char} (h : c ≠ '\x1b') (cs : List Char) :
    afterStyle? (c :: cs) = none := by
  unfold afterStyle?
  split
  · rename_i heq
    cases heq
    exact absurd rfl h
  · rfl

theorem withoutStyles_cons_of_ne {c : Char} (h : c ≠ '\x1b') (cs : List Char) :
    withoutStyles (c :: cs) = c :: withoutStyles cs := by
  rw [withoutStyles]
  split
  · rename_i rest hafter
    rw [afterStyle?_cons_of_ne h] at hafter
    cases hafter
  · rfl

/-- A text without escape characters stays as it is. -/
theorem withoutStyles_append {cs : List Char} (h : '\x1b' ∉ cs) (rest : List Char) :
    withoutStyles (cs ++ rest) = cs ++ withoutStyles rest := by
  induction cs with
  | nil => rfl
  | cons c cs ih =>
    rw [List.mem_cons, not_or] at h
    rw [List.cons_append, List.cons_append, withoutStyles_cons_of_ne (Ne.symm h.1), ih h.2]

theorem withoutStyles_style {codes : List Char} (h : ∀ c ∈ codes, isStyleCode c = true)
    (rest : List Char) :
    withoutStyles ('\x1b' :: '[' :: (codes ++ 'm' :: rest)) = withoutStyles rest := by
  have hafter : afterStyle? ('\x1b' :: '[' :: (codes ++ 'm' :: rest)) = some rest := by
    rw [afterStyle?, List.dropWhile_append_of_pos h, List.dropWhile_cons_of_neg (by decide)]
    rfl
  rw [withoutStyles]
  split
  · rename_i found hfound
    rw [hafter] at hfound
    cases hfound
    rfl
  · rename_i hnone
    rw [hafter] at hnone
    cases hnone

/-! ### Texts without escape characters -/

/-- The text holds no escape character, with which every control sequence begins. -/
def Text.Unescaped (s : String) : Prop := '\x1b' ∉ s.toList

namespace Text

instance (s : String) : Decidable (Unescaped s) :=
  inferInstanceAs (Decidable ('\x1b' ∉ s.toList))

@[simp]
theorem unescaped_append {s t : String} : Unescaped (s ++ t) ↔ Unescaped s ∧ Unescaped t := by
  unfold Unescaped
  rw [String.toList_append, List.mem_append, not_or]

theorem unescaped_intercalate {separator : String} (hseparator : Unescaped separator)
    {texts : List String} (h : ∀ t ∈ texts, Unescaped t) :
    Unescaped (separator.intercalate texts) := by
  induction texts with
  | nil =>
    rw [String.intercalate_nil]
    decide
  | cons t texts ih =>
    rw [List.forall_mem_cons] at h
    cases texts with
    | nil =>
      rw [String.intercalate_singleton]
      exact h.1
    | cons u texts =>
      rw [String.intercalate_cons_cons, unescaped_append, unescaped_append]
      exact ⟨⟨h.1, hseparator⟩, ih h.2⟩

theorem escape_not_mem_of_isDigit {cs : List Char} (h : ∀ c ∈ cs, c.isDigit = true) :
    '\x1b' ∉ cs :=
  fun hmem => absurd (h _ hmem) (by decide)

theorem isDigit_of_mem_repr {n : Nat} {c : Char} (h : c ∈ n.repr.toList) : c.isDigit = true := by
  rw [Nat.toList_repr] at h
  exact Nat.isDigit_of_mem_toDigits (by decide) (by decide) h

@[simp]
theorem unescaped_repr (n : Nat) : Unescaped n.repr :=
  escape_not_mem_of_isDigit fun _ => isDigit_of_mem_repr

@[simp]
theorem unescaped_padded {width : Nat} {s : String} : Unescaped (padded width s) ↔ Unescaped s := by
  have hspaces : Unescaped (String.ofList (List.replicate (width - s.length) ' ')) := by
    unfold Unescaped
    rw [String.toList_ofList]
    exact fun hmem => absurd (List.eq_of_mem_replicate hmem) (by decide)
  unfold padded
  rw [unescaped_append, and_iff_left hspaces]

end Text

/-- A number with a fixed number of places is written in digits, a point and a sign, or as a
word. -/
theorem Decimal.unescaped_fixedText (places : Nat) (x : Float) :
    Text.Unescaped (fixedText places x) := by
  unfold fixedText
  split
  · decide
  · split <;> decide
  · rename_i b hfinite
    -- Only that `ds` are digits counts, not which ones.
    generalize scaleTwo (b.mantissa * tenTo places) b.exponent = ratio
    obtain ⟨n, d⟩ := ratio
    dsimp only
    generalize hds : List.replicate (places + 1 - (digitsOf (roundHalfEven n d)).length) '0'
      ++ digitsOf (roundHalfEven n d) = ds
    have hdigit : ∀ c ∈ ds, c.isDigit = true := by
      intro c hc
      rw [← hds, List.mem_append] at hc
      rcases hc with hc | hc
      · rw [List.eq_of_mem_replicate hc]
        decide
      · exact Nat.isDigit_of_mem_toDigits (by decide) (by decide) hc
    unfold Text.Unescaped
    rw [String.toList_ofList, List.mem_append, List.mem_append, not_or, not_or]
    refine ⟨⟨?_, ?_⟩, ?_⟩
    · split <;> decide
    · exact Text.escape_not_mem_of_isDigit fun c hc => hdigit c (List.mem_of_mem_take hc)
    · split
      · decide
      · rw [List.mem_cons, not_or]
        exact ⟨by decide,
          Text.escape_not_mem_of_isDigit fun c hc => hdigit c (List.mem_of_mem_drop hc)⟩

/-! ### Pieces -/

namespace PieceStyle

/-- A style begins with a control sequence. -/
theorem withoutStyles_start (style : PieceStyle) (rest : List Char) :
    withoutStyles (style.start.toList ++ rest) = withoutStyles rest := by
  have hcodes : ∀ c ∈ (";".intercalate (style.codes.map toString)).toList,
      isStyleCode c = true := by
    generalize style.codes = codes
    induction codes with
    | nil => simp
    | cons n codes ih =>
      have hn : ∀ c ∈ (toString n).toList, isStyleCode c = true := fun c hc => by
        rw [isStyleCode, Text.isDigit_of_mem_repr hc, Bool.true_or]
      cases codes with
      | nil => simpa using hn
      | cons m codes =>
        rw [List.map_cons, List.map_cons, String.intercalate_cons_cons, String.toList_append,
          String.toList_append]
        intro c hc
        rcases List.mem_append.1 hc with hc | hc
        · rcases List.mem_append.1 hc with hc | hc
          · exact hn c hc
          · rw [List.mem_singleton.1 hc]
            decide
        · exact ih c hc
  have hstart : style.start.toList ++ rest
      = '\x1b' :: '[' :: ((";".intercalate (style.codes.map toString)).toList ++ 'm' :: rest) := by
    rw [start, String.toList_append, String.toList_append, List.append_assoc, List.append_assoc]
    rfl
  rw [hstart, withoutStyles_style hcodes]

end PieceStyle

theorem withoutStyles_styleEnd (rest : List Char) :
    withoutStyles (styleEnd.toList ++ rest) = withoutStyles rest :=
  PieceStyle.withoutStyles_start ⟨[0]⟩ rest

theorem restyled_of_not_mem (start : List Char) {cs : List Char} (h : '\x1b' ∉ cs) :
    restyled start cs = cs := by
  induction cs with
  | nil => rfl
  | cons c cs ih =>
    rw [List.mem_cons, not_or] at h
    rw [restyled, ih h.2]
    -- The other case of `restyled` begins with an escape character.
    rintro cs rfl
    exact absurd rfl h.1

namespace Piece

/-- The text of a piece without its style. -/
def text : Piece → String
  | .plain text => text
  | .styled _ _ text => text

@[simp]
theorem text_plain (text : String) : (plain text).text = text := rfl

@[simp]
theorem text_styled (style : PieceStyle) (width : Nat) (text : String) :
    (styled style width text).text = text := rfl

/-- The control sequences of a piece are those of its style. -/
theorem withoutStyles_render {p : Piece} (h : Text.Unescaped p.text) (rest : List Char) :
    withoutStyles ((p.render true).toList ++ rest)
      = (p.render false).toList ++ withoutStyles rest := by
  cases p with
  | plain text => exact withoutStyles_append h rest
  | styled style width text =>
    have htext : Text.Unescaped text := h
    have hsame : String.ofList (restyled style.start.toList text.toList) = text := by
      rw [restyled_of_not_mem _ htext, String.ofList_toList]
    have hpadded : Text.Unescaped (Text.padded width text) := Text.unescaped_padded.2 htext
    rw [render, if_pos rfl, hsame, render, if_neg Bool.false_ne_true, String.toList_append,
      String.toList_append, List.append_assoc, List.append_assoc,
      PieceStyle.withoutStyles_start, withoutStyles_append hpadded, withoutStyles_styleEnd]

theorem withoutStyles_renderAll {pieces : List Piece} (h : ∀ p ∈ pieces, Text.Unescaped p.text) :
    withoutStyles (renderAll true pieces).toList = (renderAll false pieces).toList := by
  unfold renderAll
  induction pieces with
  | nil => exact withoutStyles_nil
  | cons p pieces ih =>
    rw [List.forall_mem_cons] at h
    rw [List.map_cons, List.map_cons, String.join_cons, String.join_cons, String.toList_append,
      String.toList_append, withoutStyles_render h.1, ih h.2]

end Piece

/-! ### Reports -/

/-- No text of the issue holds an escape character. -/
structure Issue.Unescaped (i : Issue) : Prop where
  message : Text.Unescaped i.message
  rule : Text.Unescaped i.rule
  fix : ∀ fix, i.fix = some fix →
    Text.Unescaped fix.description ∧ Text.Unescaped fix.replacement

/-- No text of the review holds an escape character. -/
structure Review.Unescaped (r : Review) : Prop where
  filePath : Text.Unescaped r.filePath
  language : Text.Unescaped r.language
  dependencies : ∀ d ∈ r.metrics.dependencies, Text.Unescaped d
  issues : ∀ i ∈ r.issues, i.Unescaped
  suggestions : ∀ s ∈ r.suggestions, Text.Unescaped s.description

namespace Report

theorem unescaped_severityTag (severity : Severity) :
    Text.Unescaped (severityTag severity).text := by
  cases severity <;> decide

theorem unescaped_location (i : Issue) : Text.Unescaped (location i) := by
  unfold location
  split
  · simp +decide
  · simp

variable {i : Issue} {r : Review}

theorem unescaped_issuePieces (h : i.Unescaped) :
    ∀ p ∈ issuePieces i, Text.Unescaped p.text := by
  unfold issuePieces
  rw [List.forall_mem_append]
  constructor
  · simp +decide [unescaped_severityTag, unescaped_location, h.rule, h.message]
  · split
    · rename_i fix hfix
      simp +decide [h.fix fix hfix]
    · simp

theorem unescaped_suggestionPieces {s : Suggestion} (h : Text.Unescaped s.description) :
    ∀ p ∈ suggestionPieces s, Text.Unescaped p.text := by
  have hpriority : Text.Unescaped s.priority.name := by cases s.priority <;> decide
  have hkind : Text.Unescaped s.kind.name := by cases s.kind <;> decide
  simp +decide [suggestionPieces, hpriority, hkind, h]

theorem unescaped_figures (m : Metrics) : Text.Unescaped (figures m) := by
  unfold figures
  simp only [Text.unescaped_append, and_assoc]
  exact ⟨by decide, Text.unescaped_repr _, by decide, Text.unescaped_repr _, by decide,
    Text.unescaped_repr _, by decide, Decimal.unescaped_fixedText 1 _, by decide,
    Decimal.unescaped_fixedText 1 _, by decide, Decimal.unescaped_fixedText 1 _, by decide⟩

theorem unescaped_dependencyPieces {dependencies : List String}
    (h : ∀ d ∈ dependencies, Text.Unescaped d) :
    ∀ p ∈ dependencyPieces dependencies, Text.Unescaped p.text := by
  have hjoined : Text.Unescaped (", ".intercalate dependencies) :=
    Text.unescaped_intercalate (by decide) h
  unfold dependencyPieces
  split
  · simp
  · simp +decide [hjoined]

theorem unescaped_issueListPieces {issues : List Issue} (h : ∀ i ∈ issues, i.Unescaped) :
    ∀ p ∈ issueListPieces issues, Text.Unescaped p.text := by
  unfold issueListPieces
  split
  · decide
  · intro p hp
    obtain ⟨i, hi, hp⟩ := List.mem_flatMap.1 hp
    exact unescaped_issuePieces (h i hi) p hp

theorem unescaped_suggestionListPieces {suggestions : List Suggestion}
    (h : ∀ s ∈ suggestions, Text.Unescaped s.description) :
    ∀ p ∈ suggestionListPieces suggestions, Text.Unescaped p.text := by
  unfold suggestionListPieces
  split
  · simp
  · rw [List.forall_mem_append]
    constructor
    · simp +decide
    · intro p hp
      obtain ⟨s, hs, hp⟩ := List.mem_flatMap.1 hp
      exact unescaped_suggestionPieces (h s hs) p hp

theorem unescaped_reviewPieces (h : r.Unescaped) (showSuggestions : Bool) :
    ∀ p ∈ reviewPieces showSuggestions r, Text.Unescaped p.text := by
  unfold reviewPieces
  simp only [List.forall_mem_append]
  refine ⟨⟨⟨⟨?_, ?_⟩, ?_⟩, ?_⟩, ?_⟩
  · simp +decide [h.filePath, h.language, unescaped_figures]
  · exact unescaped_dependencyPieces h.dependencies
  · exact unescaped_issueListPieces h.issues
  · split
    · exact unescaped_suggestionListPieces h.suggestions
    · simp
  · decide

theorem unescaped_breakdown (s : Summary) : Text.Unescaped (breakdown s) := by
  unfold breakdown
  dsimp only
  generalize hparts : (Severity.all.reverse.filterMap fun severity =>
    (s.countOf? severity).map fun n => s!"{n} {severity.name}") = parts
  have hplain : ∀ t ∈ parts, Text.Unescaped t := by
    intro t ht
    rw [← hparts] at ht
    obtain ⟨severity, -, ht⟩ := List.mem_filterMap.1 ht
    obtain ⟨n, -, rfl⟩ := Option.map_eq_some_iff.1 ht
    cases severity <;> simp +decide [Severity.name]
  split
  · decide
  · rw [Text.unescaped_append, Text.unescaped_append]
    exact ⟨⟨by decide, Text.unescaped_intercalate (by decide) hplain⟩, by decide⟩

theorem unescaped_summaryPieces (s : Summary) :
    ∀ p ∈ summaryPieces s, Text.Unescaped p.text := by
  have hgrade : Text.Unescaped s.grade.name := by cases s.grade <;> decide
  have hplural : Text.Unescaped (if s.files = 1 then "" else "s") := by split <;> decide
  unfold summaryPieces
  simp only [List.forall_mem_cons, Piece.text_plain, Piece.text_styled, Text.unescaped_append,
    and_assoc]
  exact ⟨by decide, by decide, by decide, Text.unescaped_repr _, by decide, hplural, by decide,
    Text.unescaped_repr _, by decide, unescaped_breakdown s, by decide, Text.unescaped_repr _,
    by decide, Decimal.unescaped_fixedText 1 _, by decide, hgrade, by decide, by simp⟩

/-- All pieces of a report are free of escape characters if the reviews are. -/
theorem unescaped_pieces {reviews : List Review} (h : ∀ r ∈ reviews, r.Unescaped)
    (showSuggestions : Bool) : ∀ p ∈ pieces showSuggestions reviews, Text.Unescaped p.text := by
  unfold pieces
  simp only [List.forall_mem_append]
  refine ⟨⟨⟨?_, ?_⟩, ?_⟩, ?_⟩
  · decide
  · intro p hp
    obtain ⟨r, hr, hp⟩ := List.mem_flatMap.1 hp
    exact unescaped_reviewPieces (h r hr) showSuggestions p hp
  · exact unescaped_summaryPieces _
  · decide

/-- **Colors are presentation only**: without its control sequences, the report with colors is the
report without colors, for reviews in which no text holds an escape character. -/
theorem withoutStyles_pretty {reviews : List Review} (h : ∀ r ∈ reviews, r.Unescaped)
    (showSuggestions : Bool) :
    withoutStyles (pretty true showSuggestions reviews).toList
      = (pretty false showSuggestions reviews).toList :=
  Piece.withoutStyles_renderAll (unescaped_pieces h showSuggestions)

/-- A review of which some texts are empty and some look like the end of a control sequence. -/
theorem withoutStyles_pretty_brackets :
    let review : Review :=
      { filePath := "[0m", language := "", metrics := { dependencies := ["[1;31m", "m"] },
        issues := [⟨.info, .low, "m", 3, some 7, "", some ⟨"[", "[0m"⟩⟩,
          ⟨.error, .critical, "31m", 1, none, "a-rule-of-more-than-twenty-two-letters", none⟩],
        suggestions := [⟨.rename, .high, "[m", 2, {}⟩] }
    review.Unescaped ∧
    withoutStyles (pretty true true [review]).toList = (pretty false true [review]).toList := by
  intro review
  have hfix : ∀ fix, some (⟨"[", "[0m"⟩ : Fix) = some fix →
      Text.Unescaped fix.description ∧ Text.Unescaped fix.replacement := by
    rintro fix ⟨⟩
    decide
  have hreview : review.Unescaped :=
    { filePath := by decide
      language := by decide
      dependencies := by decide
      issues := List.forall_mem_cons.2 ⟨⟨by decide, by decide, hfix⟩,
        List.forall_mem_singleton.2 ⟨by decide, by decide, by rintro fix ⟨⟩⟩⟩
      suggestions := List.forall_mem_singleton.2 (by decide) }
  exact ⟨hreview, withoutStyles_pretty (List.forall_mem_singleton.2 hreview) true⟩

end Report

end SourceReview
