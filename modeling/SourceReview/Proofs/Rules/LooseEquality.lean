import SourceReview.Proofs.Listing.Bounds
import SourceReview.Proofs.Pattern.Runs
import SourceReview.Proofs.Pattern.Scan
import SourceReview.Proofs.Rules.OwnIssues
import SourceReview.Proofs.Text.Segment

/-!
# Loose comparisons

A loose comparison is `==` or `!=` without a further `=` behind it and without one of `=`, `!`, `<`
and `>` before it (`isLooseAt`). The pattern of the rule covers a character on each side of the
operator, and matches do not overlap; so a comparison that begins three characters after a reported
one, with a single character between the two, is passed over (`isReportedAt`). A scan finds exactly
the reported comparisons (`looseEquality_scan`). The issues of a line are those of all its loose
comparisons just if no two of them begin three characters apart
(`loose_comparisons_reported_iff`).
-/

namespace SourceReview.Script

open Pattern

/-! ### Loose comparisons in the code -/

/-- Whether a text begins with one of the two operators. -/
def beginsOperator (cs : List Char) : Bool :=
  Text.startsWith cs "==".toList || Text.startsWith cs "!=".toList

/-- Whether a text begins with a loose comparison, which is an operator without a further `=`. -/
def beginsLoose (cs : List Char) : Bool := beginsOperator cs && cs[2]? != some '='

/-- Whether a character can stand before a comparison. -/
def canPrecede (c : Char) : Bool := !"=!<>".toList.contains c

/-- Whether the character before a position, if there is one, can stand before a comparison. -/
def isFreeBefore (code : List Char) (i : Nat) : Bool := i == 0 || code[i - 1]?.any canPrecede

/-- Whether a loose comparison stands at a position of the code. -/
def isLooseAt (code : List Char) (i : Nat) : Bool :=
  isFreeBefore code i && beginsLoose (code.drop i)

/-- Whether the comparison at a position is reported: it is loose, and the one that begins three
characters before it is not reported. -/
def isReportedAt (code : List Char) : Nat → Bool
  | i + 3 => isLooseAt code (i + 3) && !isReportedAt code i
  | i => isLooseAt code i

/-- The loose comparisons in the code, by their positions. -/
def loosePositions (code : List Char) : List Nat := (List.range code.length).filter (isLooseAt code)

/-- The positions from `pos` on whose comparisons are reported. -/
def reportedFrom (code : List Char) (pos : Nat) : List Nat :=
  (List.range' pos (code.length - pos)).filter (isReportedAt code)

/-- The operator at a position. -/
def operatorAt (code : List Char) (i : Nat) : String := String.ofList ((code.drop i).take 2)

/-- The issue of the comparison at a position: it stands at the column of the operator, and its fix
is the operator with one more `=`. -/
def looseIssue (line : SourceLine) (i : Nat) : Issue :=
  let operator := operatorAt line.code i
  Rule.issue "eqeqeq" line.number (some (i + 1))
    ⟨.warning, .medium, "Use '" ++ operator ++ "=' instead of '" ++ operator ++ "'",
      some ⟨"Use strict equality", operator ++ "="⟩⟩

/-- The match of the comparison at a position: it covers one character before the operator, if there
is one, and one after it. -/
def looseMatch (code : List Char) (i : Nat) : Match :=
  ⟨⟨i - 1, min (i + 3) code.length⟩, [(.operator, ⟨i, i + 2⟩)]⟩

theorem beginsOperator_iff (cs : List Char) :
    beginsOperator cs = true ↔ (cs[0]? = some '=' ∨ cs[0]? = some '!') ∧ cs[1]? = some '=' := by
  unfold beginsOperator
  rw [Bool.or_eq_true, Text.startsWith_iff, Text.startsWith_iff]
  match cs with
  | [] => simp
  | [c] => simp
  | c :: d :: cs => simp [eq_comm, or_and_right]

variable {code : List Char} {i pos : Nat}

/-- The two characters of a loose comparison. -/
theorem getElem?_of_isLooseAt (h : isLooseAt code i = true) :
    (code[i]? = some '=' ∨ code[i]? = some '!') ∧ code[i + 1]? = some '=' := by
  unfold isLooseAt beginsLoose at h
  rw [Bool.and_eq_true, Bool.and_eq_true, beginsOperator_iff] at h
  simpa only [List.getElem?_drop, Nat.add_zero] using h.2.1

theorem operatorAt_of_isLooseAt (h : isLooseAt code i = true) :
    operatorAt code i = "==" ∨ operatorAt code i = "!=" := by
  obtain ⟨hoperator, hequal⟩ := getElem?_of_isLooseAt h
  have htake : (code.drop i).take 2 = code[i]?.toList ++ code[i + 1]?.toList := by
    rw [List.take_add_one, List.take_one, List.head?_drop, List.getElem?_drop]
  unfold operatorAt
  rw [htake, hequal]
  rcases hoperator with hi | hi <;> rw [hi]
  · exact .inl rfl
  · exact .inr rfl

theorem lt_of_isLooseAt (h : isLooseAt code i = true) : i + 1 < code.length :=
  (List.getElem?_eq_some_iff.1 (getElem?_of_isLooseAt h).2).1

/-- No loose comparison begins right after a character of an operator. -/
theorem isLooseAt_succ_eq_false (h : code[i]? = some '=' ∨ code[i]? = some '!') :
    isLooseAt code (i + 1) = false := by
  have hfree : isFreeBefore code (i + 1) = false := by
    rcases h with h | h <;> simp [isFreeBefore, h, canPrecede]
  rw [isLooseAt, hfree, Bool.false_and]

theorem isLooseAt_of_isReportedAt (h : isReportedAt code i = true) : isLooseAt code i = true := by
  match i with
  | 0 => exact h
  | 1 => exact h
  | 2 => exact h
  | i + 3 =>
    rw [isReportedAt, Bool.and_eq_true] at h
    exact h.1

theorem isReportedAt_eq_false (h : isLooseAt code i = false) : isReportedAt code i = false :=
  Bool.eq_false_iff.2 fun hreported => Bool.eq_false_iff.1 h (isLooseAt_of_isReportedAt hreported)

/-! ### Matches of the pattern -/

theorem runs_operator (r : Run) :
    (part .operator (words ["==", "!="])).runs r
      = if beginsOperator r.rest then
          [⟨r.pos + 2, some '=', r.rest.drop 2, (.operator, ⟨r.pos, r.pos + 2⟩) :: r.parts⟩]
        else [] := by
  show ((chars "==".toList).runs r ++ (chars "!=".toList).runs r).map _ = _
  rw [runs_chars, runs_chars]
  unfold beginsOperator Text.startsWith
  cases hequal : Text.after? "==".toList r.rest with
  | some rest =>
    have hrest := Text.after?_eq_some_iff.1 hequal
    -- What begins with one of the operators does not begin with the other.
    have hunequal : Text.after? "!=".toList r.rest = none := by
      rw [hrest]
      rfl
    rw [hunequal, hrest]
    rfl
  | none =>
    cases hunequal : Text.after? "!=".toList r.rest with
    | some rest =>
      rw [Text.after?_eq_some_iff.1 hunequal]
      rfl
    | none => rfl

/-- After the operator, one more character is taken, or the line ends. -/
theorem runs_closing (r : Run) :
    ((except "=").alt atEnd).runs r
      = if r.rest.head? = some '=' then []
        else [⟨r.pos + min 1 r.rest.length, r.rest.head?.or r.prev, r.rest.tail, r.parts⟩] := by
  obtain ⟨pos, prev, rest, parts⟩ := r
  cases rest with
  | nil => rfl
  | cons c rest =>
    by_cases hc : c = '='
    · subst hc
      rfl
    · simp [runs, except, hc]

/-- The match of an operator and what follows it. -/
theorem runs_comparison (r : Run) :
    (((part .operator (words ["==", "!="])).runs r).flatMap ((except "=").alt atEnd).runs).map
        (fun t => (t.pos, t.parts))
      = if beginsLoose r.rest then
          [(r.pos + min 3 r.rest.length, (.operator, ⟨r.pos, r.pos + 2⟩) :: r.parts)]
        else [] := by
  rw [runs_operator]
  unfold beginsLoose
  cases hoperator : beginsOperator r.rest with
  | false => rfl
  | true =>
    have hlength : 2 ≤ r.rest.length := by
      rcases Bool.or_eq_true_iff.1 hoperator with h | h <;>
        exact (Text.startsWith_iff.1 h).length_le
    have hstop : r.pos + 2 + min 1 (r.rest.length - 2) = r.pos + min 3 r.rest.length := by omega
    rw [if_pos rfl, List.flatMap_singleton, runs_closing, List.head?_drop, Bool.true_and]
    by_cases hnext : r.rest[2]? = some '='
    · simp [hnext]
    · simp [hnext, hstop]

/-- Before the operator, nothing is taken at the start of the line, or else one character. -/
theorem runs_lead (r : Run) :
    (atStart.alt (except "=!<>")).runs r
      = (if r.prev.isNone then [r] else []) ++
          if r.rest.head?.any canPrecede then [⟨r.pos + 1, r.rest.head?, r.rest.tail, r.parts⟩]
          else [] := by
  obtain ⟨pos, prev, rest, parts⟩ := r
  cases rest <;> rfl

/-- A comparison matches at the start of a line, or else after a character that can stand before
it. -/
theorem looseEquality_matchAt (pos : Nat) (prev : Option Char) (rest : List Char) :
    looseEquality.matchAt pos prev rest
      = if prev.isNone && beginsLoose rest then
          some ⟨⟨pos, pos + min 3 rest.length⟩, [(.operator, ⟨pos, pos + 2⟩)]⟩
        else if rest.head?.any canPrecede && beginsLoose rest.tail then
          some ⟨⟨pos, pos + 1 + min 3 rest.tail.length⟩, [(.operator, ⟨pos + 1, pos + 3⟩)]⟩
        else none := by
  have hmatch : looseEquality.matchAt pos prev rest
      = ((((atStart.alt (except "=!<>")).runs ⟨pos, prev, rest, []⟩).flatMap fun r =>
          (((part .operator (words ["==", "!="])).runs r).flatMap ((except "=").alt atEnd).runs).map
            fun t => (t.pos, t.parts)).head?).map fun t => ⟨⟨pos, t.1⟩, t.2⟩ := by
    rw [← List.map_flatMap, List.head?_map, Option.map_map, ← List.flatMap_assoc]
    rfl
  rw [hmatch, runs_lead, List.flatMap_append]
  simp only [runs_comparison]
  -- The two ways of leading to the operator, each followed by a comparison or not.
  cases prev.isNone <;> cases hhere : beginsLoose rest <;> cases rest.head?.any canPrecede <;>
    cases hnext : beginsLoose rest.tail <;> simp [hhere, hnext]

theorem looseEquality_matchIn?_zero (h : isLooseAt code 0 = true) :
    looseEquality.matchIn? code 0 = some (looseMatch code 0) := by
  have hloose : beginsLoose code = true := h
  show looseEquality.matchAt 0 none code = _
  rw [looseEquality_matchAt, hloose]
  simp [looseMatch]

/-- Apart from a comparison at the start of the line, the match at a position is the comparison
after it. -/
theorem looseEquality_matchIn? (h : pos = 0 → isLooseAt code 0 = false) :
    looseEquality.matchIn? code pos
      = if isLooseAt code (pos + 1) then some (looseMatch code (pos + 1)) else none := by
  -- Away from the start of the line there is a character before the position, or nothing after it.
  have hfirst : ((code.take pos).getLast?.isNone && beginsLoose (code.drop pos)) = false := by
    cases pos with
    | zero => exact h rfl
    | succ k =>
      by_cases hk : k < code.length
      · rw [getLast?_take_succ hk]
        rfl
      · rw [List.drop_eq_nil_of_le (by omega), Bool.and_comm]
        rfl
  have hfree : isFreeBefore code (pos + 1) = (code.drop pos).head?.any canPrecede := by
    simp [isFreeBefore]
  have hloose : isLooseAt code (pos + 1)
      = ((code.drop pos).head?.any canPrecede && beginsLoose (code.drop pos).tail) := by
    rw [isLooseAt, hfree, List.tail_drop]
  rw [matchIn?, looseEquality_matchAt, hfirst, ← hloose]
  by_cases hnext : isLooseAt code (pos + 1) = true
  · have hlt := lt_of_isLooseAt hnext
    have hstop : pos + 1 + min 3 (code.drop pos).tail.length = min (pos + 1 + 3) code.length := by
      rw [List.tail_drop, List.length_drop]
      omega
    rw [hstop]
    simp [hnext, looseMatch]
  · simp [hnext]

/-! ### Scanning a line -/

/-- No comparison at a position or at one of the two before it is reported. -/
def Settled (code : List Char) (pos : Nat) : Prop :=
  ∀ j, j ≤ pos → pos ≤ j + 2 → isReportedAt code j = false

theorem Settled.isReportedAt_succ (h : Settled code pos) :
    isReportedAt code (pos + 1) = isLooseAt code (pos + 1) := by
  match pos with
  | 0 => rfl
  | 1 => rfl
  | k + 2 => rw [isReportedAt, h k (by omega) (by omega), Bool.not_false, Bool.and_true]

theorem Settled.succ (h : Settled code pos) (hnext : isLooseAt code (pos + 1) = false) :
    Settled code (pos + 1) := by
  intro j hle hge
  rcases Nat.eq_or_lt_of_le hle with rfl | hlt
  · exact isReportedAt_eq_false hnext
  · exact h j (by omega) (by omega)

/-- A reported comparison keeps the next three positions from being reported. -/
theorem settled_of_isReportedAt (h : isReportedAt code i = true) : Settled code (i + 3) := by
  have hloose := isLooseAt_of_isReportedAt h
  obtain ⟨hoperator, hequal⟩ := getElem?_of_isLooseAt hloose
  intro j hle hge
  have hj : j = i + 1 ∨ j = i + 2 ∨ j = i + 3 := by omega
  rcases hj with rfl | rfl | rfl
  · exact isReportedAt_eq_false (isLooseAt_succ_eq_false hoperator)
  · exact isReportedAt_eq_false (isLooseAt_succ_eq_false (.inl hequal))
  · rw [isReportedAt, h, Bool.not_true, Bool.and_false]

theorem reportedFrom_of_length_le (h : code.length ≤ pos) : reportedFrom code pos = [] := by
  rw [reportedFrom, Nat.sub_eq_zero_of_le h]
  rfl

theorem reportedFrom_of_lt (h : pos < code.length) :
    reportedFrom code pos
      = (if isReportedAt code pos then [pos] else []) ++ reportedFrom code (pos + 1) := by
  have hlength : code.length - pos = code.length - (pos + 1) + 1 := by omega
  unfold reportedFrom
  rw [hlength, List.range'_succ, List.filter_cons]
  split <;> rfl

theorem reportedFrom_succ (h : isReportedAt code pos = false) :
    reportedFrom code pos = reportedFrom code (pos + 1) := by
  by_cases hlt : pos < code.length
  · rw [reportedFrom_of_lt hlt, h]
    rfl
  · rw [reportedFrom_of_length_le (by omega), reportedFrom_of_length_le (by omega)]

/-- After a reported comparison, the next that can be reported begins four characters later. -/
theorem reportedFrom_of_isReportedAt (h : isReportedAt code i = true) :
    reportedFrom code i = i :: reportedFrom code (i + 4) := by
  have hlt := lt_of_isLooseAt (isLooseAt_of_isReportedAt h)
  have hsettled := settled_of_isReportedAt h
  rw [reportedFrom_of_lt (by omega), h, reportedFrom_succ (hsettled (i + 1) (by omega) (by omega)),
    reportedFrom_succ (hsettled (i + 2) (by omega) (by omega)),
    reportedFrom_succ (hsettled (i + 3) (by omega) (by omega))]
  rfl

theorem looseEquality_scanAt_of_match (hle : pos ≤ i) (hloose : isLooseAt code i = true)
    (hm : looseEquality.matchIn? code pos = some (looseMatch code i)) :
    looseEquality.scanAt code pos = looseMatch code i :: looseEquality.scanAt code (i + 3) := by
  have hlt := lt_of_isLooseAt hloose
  have hstop : (looseMatch code i).span.stop = min (i + 3) code.length := rfl
  rw [scanAt_of_match (by omega) hm (by omega), hstop, scanAt_min]

/-- The scan from a position on finds the reported comparisons after it. -/
theorem looseEquality_scanAt (pos : Nat) (h : Settled code pos) :
    looseEquality.scanAt code pos = (reportedFrom code (pos + 1)).map (looseMatch code) := by
  -- The recursion is on what is left of the line, and `Settled` holds at each place that the scan
  -- comes to, so that being loose and being reported are the same for the next comparison.
  by_cases hpos : pos < code.length
  · have hstart : pos = 0 → isLooseAt code 0 = false := by
      rintro rfl
      exact h 0 (by omega) (by omega)
    have hm := looseEquality_matchIn? hstart
    by_cases hloose : isLooseAt code (pos + 1) = true
    · have hreported := h.isReportedAt_succ.trans hloose
      rw [hloose, if_pos rfl] at hm
      rw [looseEquality_scanAt_of_match (by omega) hloose hm,
        reportedFrom_of_isReportedAt hreported, List.map_cons,
        looseEquality_scanAt (pos + 1 + 3) (settled_of_isReportedAt hreported)]
    · have hnot : isLooseAt code (pos + 1) = false := Bool.eq_false_iff.2 hloose
      rw [hnot, if_neg Bool.false_ne_true] at hm
      rw [scanAt_of_matchIn?_eq_none hm, looseEquality_scanAt (pos + 1) (h.succ hnot),
        reportedFrom_succ (isReportedAt_eq_false hnot)]
  · rw [scanAt_of_length_le (by omega), reportedFrom_of_length_le (by omega)]
    rfl
termination_by code.length - pos

/-- A scan of the code finds the reported comparisons. -/
theorem looseEquality_scan (code : List Char) :
    looseEquality.scan code = (reportedFrom code 0).map (looseMatch code) := by
  rw [scan_eq_scanAt]
  cases hzero : isLooseAt code 0 with
  | true =>
    have hreported : isReportedAt code 0 = true := hzero
    rw [looseEquality_scanAt_of_match (Nat.le_refl 0) hzero (looseEquality_matchIn?_zero hzero),
      reportedFrom_of_isReportedAt hreported, List.map_cons,
      looseEquality_scanAt 3 (settled_of_isReportedAt hreported)]
  | false =>
    have hreported : isReportedAt code 0 = false := hzero
    have hsettled : Settled code 0 := by
      intro j hle _
      rw [Nat.le_zero.1 hle]
      exact hreported
    rw [looseEquality_scanAt 0 hsettled, reportedFrom_succ hreported]

/-! ### Issues of a line -/

theorem mem_reportedFrom_zero : i ∈ reportedFrom code 0 ↔ isReportedAt code i = true := by
  unfold reportedFrom
  rw [List.mem_filter, List.mem_range'_1]
  refine ⟨fun h => h.2, fun h => ⟨?_, h⟩⟩
  have hlt := lt_of_isLooseAt (isLooseAt_of_isReportedAt h)
  omega

theorem mem_loosePositions : i ∈ loosePositions code ↔ isLooseAt code i = true := by
  unfold loosePositions
  rw [List.mem_filter, List.mem_range]
  refine ⟨fun h => h.2, fun h => ⟨?_, h⟩⟩
  have hlt := lt_of_isLooseAt h
  omega

/-- Each reported comparison of a line raises its issue, from left to right. -/
theorem looseEqualityIssues_eq (line : SourceLine) :
    looseEqualityIssues line = (reportedFrom line.code 0).map (looseIssue line) := by
  unfold looseEqualityIssues
  rw [looseEquality_scan, List.map_map]
  apply List.map_congr_left
  intro i hi
  have hloose := isLooseAt_of_isReportedAt (mem_reportedFrom_zero.1 hi)
  have hpart : (looseMatch line.code i).part? .operator = some ⟨i, i + 2⟩ := rfl
  have htext : String.ofList (((looseMatch line.code i).partText? .operator line.code).getD [])
      = operatorAt line.code i := by
    show String.ofList ((line.code.drop i).take (i + 2 - i)) = _
    rw [Nat.add_sub_cancel_left, operatorAt]
  simp only [Function.comp_apply, htext, hpart, looseIssue]
  rcases operatorAt_of_isLooseAt hloose with hoperator | hoperator <;>
    rw [hoperator] <;> rfl

/-- Every loose comparison of the code is reported just if no two of them begin three characters
apart. -/
theorem reportedFrom_eq_loosePositions_iff (code : List Char) :
    reportedFrom code 0 = loosePositions code
      ↔ ∀ i, isLooseAt code i = true → isLooseAt code (i + 3) = false := by
  constructor
  · -- If all loose comparisons are reported, so are two that are three characters apart.
    intro h i hi
    have hreported : ∀ j, isLooseAt code j = true → isReportedAt code j = true := by
      intro j hj
      rw [← mem_reportedFrom_zero, h, mem_loosePositions]
      exact hj
    apply Bool.eq_false_iff.2
    intro hnext
    have hboth := hreported (i + 3) hnext
    rw [isReportedAt, hreported i hi, Bool.not_true, Bool.and_false] at hboth
    exact Bool.false_ne_true hboth
  · intro h
    unfold reportedFrom loosePositions
    rw [List.range_eq_range', Nat.sub_zero]
    apply List.filter_congr
    intro j _
    match j with
    | 0 => rfl
    | 1 => rfl
    | 2 => rfl
    | i + 3 =>
      rw [isReportedAt]
      cases hi : isReportedAt code i with
      | false => exact Bool.and_true _
      | true => rw [h i (isLooseAt_of_isReportedAt hi), Bool.false_and]

theorem looseIssue_injective (line : SourceLine) : Function.Injective (looseIssue line) := by
  intro i j h
  have hcolumn : some (i + 1) = some (j + 1) := congrArg Issue.column h
  injection hcolumn with hcolumn
  exact Nat.succ.inj hcolumn

theorem check_eqeqeq {l : Language} (hl : l ∈ [Language.javascript, Language.typescript])
    (text : List Char) :
    l.analyzer.check ["eqeqeq"] text
      = (codeLines (listing l.comments text)).flatMap looseEqualityIssues := by
  simp only [List.mem_cons, List.not_mem_nil, or_false] at hl
  rcases hl with rfl | rfl
  · rw [Language.check_singleton (l := Language.javascript) rfl]
  · rw [Language.check_singleton (l := Language.typescript) rfl]

/-- Where each line raises its own issues, those with the number of a line are the issues of that
line. -/
theorem filter_flatMap_line {f : SourceLine → List Issue}
    (hf : ∀ l, ∀ i ∈ f l, i.line = l.number) {lines : List SourceLine}
    (hnumbers : (lines.map (·.number)).Pairwise (· < ·)) {line : SourceLine}
    (hline : line ∈ lines) :
    (lines.flatMap f).filter (·.line == line.number) = f line := by
  have hself : (f line).filter (·.line == line.number) = f line := by
    rw [List.filter_eq_self]
    intro i hi
    rw [hf line i hi, beq_self_eq_true]
  have hother : ∀ l, l.number ≠ line.number → (f l).filter (·.line == line.number) = [] := by
    intro l hl
    rw [List.filter_eq_nil_iff]
    intro i hi
    rw [hf l i hi, beq_iff_eq]
    exact hl
  induction lines with
  | nil => exact absurd hline List.not_mem_nil
  | cons l lines ih =>
    rw [List.map_cons, List.pairwise_cons] at hnumbers
    obtain ⟨hfirst, hrest⟩ := hnumbers
    rw [List.flatMap_cons, List.filter_append]
    rcases List.mem_cons.1 hline with rfl | hline
    · have hlater : (lines.flatMap f).filter (·.line == line.number) = [] := by
        rw [List.filter_flatMap, List.flatMap_eq_nil_iff]
        intro l hl
        have hlt := hfirst _ (List.mem_map_of_mem hl)
        exact hother l (by omega)
      rw [hself, hlater, List.append_nil]
    · have hlt := hfirst _ (List.mem_map_of_mem hline)
      rw [hother l (by omega), ih hrest hline, List.nil_append]

/-- The rule reports the comparisons of each line of code from left to right, at the column of the
operator and with its strict form. In a line it reports every loose comparison just if no two of
them begin three characters apart. -/
theorem loose_comparisons_reported_iff {l : Language}
    (hl : l ∈ [Language.javascript, Language.typescript]) (text : List Char) :
    l.analyzer.check ["eqeqeq"] text
        = (codeLines (listing l.comments text)).flatMap (fun line =>
            (reportedFrom line.code 0).map (looseIssue line)) ∧
      ∀ line ∈ codeLines (listing l.comments text),
        ((l.analyzer.check ["eqeqeq"] text).filter (·.line == line.number)
            = (loosePositions line.code).map (looseIssue line)
          ↔ ∀ i, isLooseAt line.code i = true → isLooseAt line.code (i + 3) = false) := by
  have hcheck : l.analyzer.check ["eqeqeq"] text
      = (codeLines (listing l.comments text)).flatMap (fun line =>
          (reportedFrom line.code 0).map (looseIssue line)) := by
    rw [check_eqeqeq hl, funext looseEqualityIssues_eq]
  refine ⟨hcheck, ?_⟩
  intro line hline
  have hlines : ∀ line : SourceLine, ∀ i ∈ (reportedFrom line.code 0).map (looseIssue line),
      i.line = line.number := by
    intro line i hi
    obtain ⟨pos, -, rfl⟩ := List.mem_map.1 hi
    rfl
  rw [hcheck, filter_flatMap_line hlines (pairwise_number_codeLines _ _) hline,
    List.map_inj_right (fun _ _ h => looseIssue_injective line h),
    reportedFrom_eq_loosePositions_iff]

/-- The statement at a line with two loose comparisons, a strict one and an order. -/
theorem loose_comparisons_reported_two :
    Language.typescript ∈ [Language.javascript, Language.typescript] ∧
    ∃ line ∈ codeLines (listing Language.typescript.comments "f(a==b, c===d, e>=f, g!=h)\n".toList),
      loosePositions line.code = [3, 22] ∧
      (Language.typescript.analyzer.check ["eqeqeq"] "f(a==b, c===d, e>=f, g!=h)\n".toList).filter
          (·.line == line.number)
        = (loosePositions line.code).map (looseIssue line) := by
  have hl : Language.typescript ∈ [Language.javascript, Language.typescript] := by simp
  let code := "f(a==b, c===d, e>=f, g!=h)".toList
  have hline : (⟨1, code, code, .code⟩ : SourceLine)
      ∈ codeLines (listing Language.typescript.comments "f(a==b, c===d, e>=f, g!=h)\n".toList) := by
    decide
  have hpositions : loosePositions code = [3, 22] := by decide
  refine ⟨hl, _, hline, hpositions, ((loose_comparisons_reported_iff hl _).2 _ hline).2 ?_⟩
  intro i hi
  apply Bool.eq_false_iff.2
  intro hnext
  have hfirst : i ∈ loosePositions code := mem_loosePositions.2 hi
  have hsecond : i + 3 ∈ loosePositions code := mem_loosePositions.2 hnext
  rw [hpositions] at hfirst hsecond
  simp only [List.mem_cons, List.not_mem_nil, or_false] at hfirst hsecond
  omega

/-- Of two comparisons with a single character between them, the second is not reported. -/
theorem loose_comparisons_chain_missed :
    loosePositions "a==b==c;".toList = [1, 4] ∧
    (Language.javascript.analyzer.check ["eqeqeq"] "a==b==c;\n".toList).map
      (fun i => (i.line, i.column)) = [(1, some 2)] := by
  decide

end SourceReview.Script
