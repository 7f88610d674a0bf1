import SourceReview.Proofs.Lexing.Basic

/-!
# Comments between slashes and stars

The kinds of the lines in a listing with slash comments, compared with what a lexer says of every
character (`kinds_of_slash_listing`).

A listing takes a line as a whole: a line that begins inside a block comment is a comment, also if
the comment is closed there and code follows. That is what a lexer finds for which such a comment
reaches to the end of its line, and in every text. A lexer that goes back to code at the closing
mark finds the same kinds just in those texts where nothing but comments and blanks follow such a
mark.
-/

namespace SourceReview

/-- Where a lexer for slash comments stands. -/
inductive SlashState where
  | code
  /-- In a quotation, after a backslash or not. -/
  | string (mark : Char) (escaped : Bool)
  | lineComment
  /-- Before the last character of the mark that opens a block comment. -/
  | opening
  /-- In a block comment, which comes from an earlier line or not. -/
  | block (carried : Bool)
  /-- Before the last character of the mark that closes a block comment. -/
  | closing (carried : Bool)
  deriving DecidableEq, Repr

namespace SlashState

/-- The mark that closes the block comment that is open. -/
def opens : SlashState → Option (List Char)
  | .opening | .block _ => some "*/".toList
  | _ => none

/-- Where a block comment is left. -/
def afterBlock (toLineEnd carried : Bool) : SlashState :=
  if toLineEnd && carried then .lineComment else .code

/-- Whether the state is in a comment from an earlier line. -/
def isCarried : SlashState → Bool
  | .block carried | .closing carried => carried
  | _ => false

/-- A line begins in code or in a comment from an earlier line. -/
def BeginsLine (s : SlashState) : Prop := s = .code ∨ s = .block true

end SlashState

/-- The lexer for slash comments. Quotations stand between two of the same quotation mark, with
backslashes as escapes, and end with their line; line comments begin with two slashes; block
comments go from slash and star to the next star and slash. If `toLineEnd` holds, a block comment
from an earlier line goes to the end of the line instead. -/
def slashLexer (toLineEnd : Bool) : Lexer SlashState where
  read
    | .code, c, cs =>
      if c = '"' ∨ c = '\x27' ∨ c = '\x60' then (.string, .string c false)
      else if c = '/' ∧ cs.head? = some '/' then (.lineComment, .lineComment)
      else if c = '/' ∧ cs.head? = some '*' then (.block, .opening)
      else (.code, .code)
    | .string mark true, _, _ => (.string, .string mark false)
    | .string mark false, c, _ =>
      if c = '\\' then (.string, .string mark true)
      else if c = mark then (.string, .code)
      else (.string, .string mark false)
    | .lineComment, _, _ => (.lineComment, .lineComment)
    | .opening, _, _ => (.block, .block false)
    | .block carried, c, cs =>
      if c = '*' ∧ cs.head? = some '/' then (.block, .closing carried) else (.block, .block carried)
    | .closing carried, _, _ => (.block, .afterBlock toLineEnd carried)
  endLine
    | .opening | .block _ => .block true
    | _ => .code

namespace LexedLine

/-- What a line is compared by: whether it holds code, and the mark that closes what it leaves open.
-/
def summary (line : LexedLine SlashState) : Bool × Option (List Char) :=
  (line.holdsCode, line.stop.opens)

theorem summary_cons (s : SlashState) (c : Char) (region : Region)
    (line : LexedLine SlashState) : (line.cons s c region).summary
      = (!Text.isBlank c && region.isProgram || line.summary.1, line.summary.2) := rfl

theorem summary_eq (line : LexedLine SlashState) :
    line.summary = (line.outcome.1, line.outcome.2.opens) := rfl

/-- If a line that begins in a comment ends in one, it is the same comment. -/
def ReopensNothing (line : LexedLine SlashState) : Prop :=
  line.start = .block true → line.stop.opens = none ∨ line.stop = .block true

end LexedLine

/-- What is read from a line is what a lexer says of it. -/
structure Reading.Follows (line : LexedLine SlashState) (r : Reading) : Prop where
  kind_eq : r.kind = line.kind
  opens_eq : r.opens = line.stop.opens

/-- What masking has to find from a state on: whether there is code, and the mark that closes what
stays open. In a quotation there is code in any case. -/
def MaskState.Agrees (toLineEnd : Bool) (cs : List Char) (m : Masked) : MaskState → Prop
  | .code skip => (m.code.any (!Text.isBlank ·), m.opens)
      = ((slashLexer toLineEnd).lexLine .code (cs.drop skip)).summary
  | .quotation mark escaped =>
    m.opens = ((slashLexer toLineEnd).lexLine (.string mark escaped) cs).stop.opens

namespace Slashes

variable {toLineEnd carried : Bool}

/-! ### One line -/

theorem head?_append_blank_iff {a d : Char} (ha : Text.isBlank a = false)
    (hd : Text.isBlank d = true) (cs rest : List Char) : (cs ++ d :: rest).head? = some a ↔ cs.head? = some a := by
  cases cs with
  | nil => simp [Text.ne_of_isBlank hd ha]
  | cons c cs => rfl

theorem isLocal_slashLexer : (slashLexer toLineEnd).IsLocal := by
  intro s c cs d rest hd
  have hslash := head?_append_blank_iff (a := '/') (by decide) hd cs rest
  have hstar := head?_append_blank_iff (a := '*') (by decide) hd cs rest
  cases s with
  | string mark escaped => cases escaped <;> rfl
  | code | lineComment | opening | block carried | closing carried =>
    simp only [slashLexer, hslash, hstar]

/-- Blanks leave a lexer in code. -/
theorem read_code_blank (c : Char) (cs : List Char) (hc : Text.isBlank c = true) :
    (slashLexer toLineEnd).read .code c cs = (.code, .code) := by
  have hquote : ¬ (c = '"' ∨ c = '\x27' ∨ c = '\x60') := by
    rintro (h | h | h) <;> exact Text.ne_of_isBlank hc (by decide) h
  have hslash : c ≠ '/' := Text.ne_of_isBlank hc (by decide)
  simp [slashLexer, hquote, hslash]

theorem read_block_blank (c : Char) (cs : List Char) (hc : Text.isBlank c = true) :
    (slashLexer toLineEnd).read (.block carried) c cs = (.block, .block carried) := by
  have hstar : c ≠ '*' := Text.ne_of_isBlank hc (by decide)
  simp [slashLexer, hstar]

/-- Blanks open and close no comment. -/
theorem opens_read_blank (s : SlashState) (c : Char) (cs : List Char) (hc : Text.isBlank c = true) :
    ((slashLexer toLineEnd).read s c cs).2.opens = s.opens := by
  cases s with
  | code => rw [read_code_blank c cs hc]
  | block carried => rw [read_block_blank c cs hc]
  | string mark escaped =>
    cases escaped with
    | true => rfl
    | false =>
      simp only [slashLexer]
      split
      · rfl
      · split <;> rfl
  | lineComment | opening => rfl
  | closing carried => cases toLineEnd <;> cases carried <;> rfl

theorem summary_code_trim (raw : List Char) :
    ((slashLexer toLineEnd).lexLine .code raw).summary
      = ((slashLexer toLineEnd).lexLine .code (Text.trim raw)).summary := by
  obtain ⟨hcode, hopens⟩ :=
    Lexer.lexLine_trim isLocal_slashLexer opens_read_blank read_code_blank raw
  exact Prod.ext hcode hopens

theorem summary_block_trim (raw : List Char) :
    ((slashLexer toLineEnd).lexLine (.block carried) raw).summary
      = ((slashLexer toLineEnd).lexLine (.block carried) (Text.trim raw)).summary := by
  obtain ⟨hcode, hopens⟩ :=
    Lexer.lexLine_trim isLocal_slashLexer opens_read_blank read_block_blank raw
  exact Prod.ext hcode hopens

theorem summary_lineComment (cs : List Char) :
    ((slashLexer toLineEnd).lexLine .lineComment cs).summary = (false, none) := by
  induction cs with
  | nil => rfl
  | cons c cs ih =>
    have hread : (slashLexer toLineEnd).read .lineComment c cs = (.lineComment, .lineComment) := rfl
    rw [Lexer.lexLine, hread, LexedLine.summary_cons, ih]
    simp [Region.isProgram]

/-- A block comment goes to its first closing mark, or to the end of the line. -/
theorem outcome_block (toLineEnd carried : Bool) (cs : List Char) :
    ((slashLexer toLineEnd).lexLine (.block carried) cs).outcome
      = (Text.splitFirst "*/".toList cs).elim (false, .block carried) fun split =>
          ((slashLexer toLineEnd).lexLine (.afterBlock toLineEnd carried) split.2).outcome := by
  apply Lexer.outcome_lexLine_until (by decide)
  · intro c cs hstart
    have hmark : ¬ (c = '*' ∧ cs.head? = some '/') := fun h =>
      Bool.false_ne_true (hstart.symm.trans (Text.startsWith_pair_iff.2 h))
    simp only [slashLexer]
    rw [if_neg hmark]
  · intro rest
    rfl

/-- The mark that opens a block comment in code is passed over. -/
theorem outcome_code_block (cs : List Char) :
    ((slashLexer toLineEnd).lexLine .code ('/' :: '*' :: cs)).outcome
      = ((slashLexer toLineEnd).lexLine (.block false) cs).outcome := rfl

/-- After a block comment that its line opens and closes, code is read as if it were not there. -/
theorem summary_code_of_closed {cs inside rest : List Char}
    (h : Text.splitFirst "*/".toList cs = some (inside, rest)) :
    ((slashLexer toLineEnd).lexLine .code ('/' :: '*' :: cs)).summary
      = ((slashLexer toLineEnd).lexLine .code rest).summary := by
  have hleft : SlashState.afterBlock toLineEnd false = .code := by cases toLineEnd <;> rfl
  rw [LexedLine.summary_eq, outcome_code_block, outcome_block, h, Option.elim_some, hleft]
  rfl

theorem summary_code_of_unclosed {cs : List Char} (h : Text.splitFirst "*/".toList cs = none) :
    ((slashLexer toLineEnd).lexLine .code ('/' :: '*' :: cs)).summary
      = (false, some "*/".toList) := by
  rw [LexedLine.summary_eq, outcome_code_block, outcome_block, h, Option.elim_none]
  rfl

/-! ### Masked lines -/

theorem beginsLineComment_slashes (cs : List Char) :
    CommentStyle.slashes.beginsLineComment cs = Text.startsWith cs "//".toList :=
  Bool.or_false _

theorem blockAt?_slashes_eq_none_iff {cs : List Char} :
    CommentStyle.slashes.blockAt? cs = none ↔ ¬ Text.startsWith cs "/*".toList = true := by
  unfold CommentStyle.blockAt? CommentStyle.slashes
  rw [List.find?_singleton]
  split <;> simp_all

/-- The only marks of a block comment, and where they stand. -/
theorem exists_of_blockAt?_slashes {cs : List Char} {mark : BlockMark}
    (h : CommentStyle.slashes.blockAt? cs = some mark) :
    mark = ⟨"/*".toList, "*/".toList⟩ ∧ ∃ body, cs = '/' :: '*' :: body := by
  have hmem := List.mem_of_find?_eq_some h
  have hstart := List.find?_some h
  cases List.mem_singleton.1 hmem
  obtain ⟨body, hbody⟩ := Text.startsWith_iff.1 hstart
  exact ⟨rfl, body, hbody.symm⟩

theorem inlineBlockAt?_slashes (cs : List Char) :
    CommentStyle.slashes.inlineBlockAt? cs = CommentStyle.slashes.blockAt? cs := rfl

/-- What is skipped as a closed block comment is the comment with both of its marks. -/
theorem exists_of_closedLength?_slashes {body : List Char} {length : Nat}
    (h : closedLength? ⟨"/*".toList, "*/".toList⟩ ('/' :: '*' :: body) = some length) :
    ∃ inside rest, Text.splitFirst "*/".toList body = some (inside, rest) ∧
      ('*' :: body).drop (length - 1) = rest := by
  obtain ⟨⟨inside, rest⟩, hsplit, hlength⟩ := Option.map_eq_some_iff.1 h
  refine ⟨inside, rest, hsplit, ?_⟩
  have hbody : body = inside ++ ('*' :: '/' :: rest) := Text.eq_of_splitFirst_eq_some hsplit
  have hsucc : length - 1 = inside.length + 2 + 1 := by
    have hsum : 2 + inside.length + 2 = length := hlength
    omega
  rw [hsucc, List.drop_succ_cons, hbody, List.drop_append]
  simp

/-- In code, the lexer makes the same tests as masking does. -/
theorem read_code (c : Char) (cs : List Char) :
    (slashLexer toLineEnd).read .code c cs
      = if isQuotationMark c then (.string, .string c false)
        else if CommentStyle.slashes.beginsLineComment (c :: cs) then (.lineComment, .lineComment)
        else if Text.startsWith (c :: cs) "/*".toList then (.block, .opening)
        else (.code, .code) := by
  have hquote : isQuotationMark c = true ↔ c = '"' ∨ c = '\x27' ∨ c = '\x60' := by
    simp [isQuotationMark, or_assoc]
  have hline : Text.startsWith (c :: cs) "//".toList = true ↔ c = '/' ∧ cs.head? = some '/' :=
    Text.startsWith_pair_iff
  have hblock : Text.startsWith (c :: cs) "/*".toList = true ↔ c = '/' ∧ cs.head? = some '*' :=
    Text.startsWith_pair_iff
  simp only [slashLexer, beginsLineComment_slashes, hquote, hline, hblock]

theorem isBlank_of_isQuotationMark {c : Char} (h : isQuotationMark c = true) :
    Text.isBlank c = false := by
  have hc : c = '"' ∨ c = '\x27' ∨ c = '\x60' := by simpa [isQuotationMark, or_assoc] using h
  rcases hc with rfl | rfl | rfl <;> decide

theorem agrees_maskFrom (state : MaskState) (cs : List Char) :
    state.Agrees toLineEnd cs (maskFrom .slashes state cs) := by
  fun_induction maskFrom .slashes state cs with
  | case1 state =>
    cases state with
    | code skip =>
      simp only [MaskState.Agrees, List.drop_nil]
      rfl
    | quotation mark escaped => rfl
  | case2 mark c cs ih => exact ih
  | case3 mark cs ih => exact ih
  | case4 mark cs hescape ih =>
    -- The quotation is closed, so what follows is code again.
    simp only [MaskState.Agrees, List.drop_zero] at ih ⊢
    have hread : (slashLexer toLineEnd).read (.string mark false) mark cs = (.string, .code) := by
      simp [slashLexer, hescape]
    rw [Lexer.lexLine, hread]
    exact congrArg Prod.snd ih
  | case5 mark c cs hescape hmark ih =>
    simp only [MaskState.Agrees] at ih ⊢
    have hread : (slashLexer toLineEnd).read (.string mark false) c cs
        = (.string, .string mark false) := by
      simp only [slashLexer]
      rw [if_neg hescape, if_neg hmark]
    rw [Lexer.lexLine, hread]
    exact ih
  | case6 skip c cs ih => exact ih
  | case7 c cs hquote ih =>
    simp only [MaskState.Agrees, List.drop_zero] at ih ⊢
    rw [Lexer.lexLine, read_code, if_pos hquote, LexedLine.summary_cons]
    simp [Masked.cons, isBlank_of_isQuotationMark hquote, Region.isProgram, ih, LexedLine.summary]
  | case8 c cs hquote hline =>
    simp only [MaskState.Agrees, List.drop_zero]
    rw [Lexer.lexLine, read_code, if_neg hquote, if_pos hline, LexedLine.summary_cons,
      summary_lineComment]
    simp [Region.isProgram]
  | case9 c cs hquote hline hblock ih =>
    simp only [MaskState.Agrees, List.drop_zero] at ih ⊢
    rw [inlineBlockAt?_slashes, blockAt?_slashes_eq_none_iff] at hblock
    rw [Lexer.lexLine, read_code, if_neg hquote, if_neg hline, if_neg hblock,
      LexedLine.summary_cons, ← ih]
    simp [Masked.cons, Region.isProgram]
  | case10 c cs hquote hline mark hblock length hclosed ih =>
    simp only [MaskState.Agrees, List.drop_zero] at ih ⊢
    obtain ⟨rfl, body, hbody⟩ := exists_of_blockAt?_slashes hblock
    obtain ⟨rfl, rfl⟩ := List.cons.inj hbody
    obtain ⟨inside, rest, hsplit, hskip⟩ := exists_of_closedLength?_slashes hclosed
    rw [hskip] at ih
    rw [summary_code_of_closed hsplit, ← ih]
    simp [Masked.cons, Text.isBlank]
  | case11 c cs hquote hline mark hblock hopen =>
    simp only [MaskState.Agrees, List.drop_zero]
    obtain ⟨rfl, body, hbody⟩ := exists_of_blockAt?_slashes hblock
    obtain ⟨rfl, rfl⟩ := List.cons.inj hbody
    have hsplit : Text.splitFirst "*/".toList body = none := Option.map_eq_none_iff.1 hopen
    rw [summary_code_of_unclosed hsplit]
    rfl

/-- Masking finds code where the lexer does, and leaves the same comment open. -/
theorem mask_slashes (cs : List Char) :
    ((mask .slashes cs).code.any (!Text.isBlank ·), (mask .slashes cs).opens)
      = ((slashLexer toLineEnd).lexLine .code cs).summary :=
  agrees_maskFrom (.code 0) cs

/-! ### Lines as they are read -/

/-- For a line that is not blank, it is enough to know the summary. -/
theorem follows_of_summary {s : SlashState} {raw : List Char} {r : Reading} {code : Bool}
    {opens : Option (List Char)} (hraw : ¬ (Text.trim raw).isEmpty = true)
    (hsummary : ((slashLexer toLineEnd).lexLine s raw).summary = (code, opens))
    (hkind : r.kind = if code then .code else .comment) (hopens : r.opens = opens) :
    r.Follows ((slashLexer toLineEnd).lexLine s raw) := by
  obtain ⟨hcode, hstop⟩ := Prod.ext_iff.1 hsummary
  refine ⟨?_, hopens.trans hstop.symm⟩
  rw [Lexer.kind_lexLine, if_neg hraw, hkind]
  exact congrArg (fun code : Bool => if code then LineKind.code else .comment) hcode.symm

/-- A line that is not blank and not a comment from its beginning holds code. -/
theorem holdsCode_of_head {c : Char} {cs : List Char} (hc : Text.isBlank c = false)
    (hline : ¬ CommentStyle.slashes.beginsLineComment (c :: cs) = true)
    (hblock : ¬ Text.startsWith (c :: cs) "/*".toList = true) :
    ((slashLexer toLineEnd).lexLine .code (c :: cs)).holdsCode = true := by
  rw [Lexer.lexLine, LexedLine.holdsCode_cons, read_code, if_neg hline, if_neg hblock]
  split <;> simp [hc, Region.isProgram]

/-- After a comment at the beginning of a line, the rest is masked. -/
theorem summary_closed_head {body inside rest : List Char}
    (h : Text.splitFirst "*/".toList body = some (inside, rest)) :
    ((slashLexer toLineEnd).lexLine .code ('/' :: '*' :: body)).summary
      = ((mask .slashes (Text.trim rest)).code.any (!Text.isBlank ·),
          (mask .slashes (Text.trim rest)).opens) :=
  calc ((slashLexer toLineEnd).lexLine .code ('/' :: '*' :: body)).summary
      = ((slashLexer toLineEnd).lexLine .code rest).summary := summary_code_of_closed h
    _ = ((slashLexer toLineEnd).lexLine .code (Text.trim rest)).summary := summary_code_trim rest
    _ = _ := (mask_slashes (Text.trim rest)).symm

theorem follows_readOutside (raw : List Char) :
    (readOutside .slashes raw).Follows ((slashLexer toLineEnd).lexLine .code raw) := by
  have htrim : ((slashLexer toLineEnd).lexLine .code raw).summary
      = ((slashLexer toLineEnd).lexLine .code (Text.trim raw)).summary := summary_code_trim raw
  unfold readOutside
  dsimp only
  split
  case isTrue hempty =>
    have hkind := (slashLexer toLineEnd).kind_lexLine .code raw
    rw [if_pos hempty] at hkind
    rw [List.isEmpty_iff.1 hempty] at htrim
    exact ⟨hkind.symm, (congrArg Prod.snd htrim).symm⟩
  case isFalse hraw =>
    -- The rest is settled by what the trimmed line begins with.
    split
    case isTrue hline =>
      rw [beginsLineComment_slashes] at hline
      obtain ⟨body, hbody⟩ := Text.startsWith_iff.1 hline
      have hsummary : ((slashLexer toLineEnd).lexLine .code ('/' :: '/' :: body)).summary
          = (false, none) := summary_lineComment body
      rw [← hbody] at htrim
      exact follows_of_summary hraw (htrim.trans hsummary) rfl rfl
    case isFalse hline =>
      split
      · rename_i mark hblock
        obtain ⟨rfl, body, hbody⟩ := exists_of_blockAt?_slashes hblock
        rw [hbody] at htrim ⊢
        split
        · rename_i inside rest hsplit
          have hclosed : Text.splitFirst "*/".toList body = some (inside, rest) := hsplit
          refine follows_of_summary hraw (htrim.trans (summary_closed_head hclosed)) ?_ rfl
          rw [← List.not_all_eq_any_not, ← Text.isEmpty_trim]
          cases (Text.trim (mask .slashes (Text.trim rest)).code).isEmpty <;> rfl
        · rename_i hsplit
          have hunclosed : Text.splitFirst "*/".toList body = none := hsplit
          rw [summary_code_of_unclosed hunclosed] at htrim
          exact follows_of_summary hraw htrim rfl rfl
      · rename_i hblock
        rw [blockAt?_slashes_eq_none_iff] at hblock
        have hcode : ((slashLexer toLineEnd).lexLine .code raw).holdsCode = true := by
          have htrimmed : _ = ((slashLexer toLineEnd).lexLine .code (Text.trim raw)).holdsCode :=
            congrArg Prod.fst htrim
          refine htrimmed.trans ?_
          cases hcs : Text.trim raw with
          | nil => simp [hcs] at hraw
          | cons c cs =>
            rw [hcs] at hline hblock
            exact holdsCode_of_head (Text.isBlank_of_trim_eq_cons hcs) hline hblock
        have hopens : (mask .slashes raw).opens
            = ((slashLexer toLineEnd).lexLine .code raw).stop.opens :=
          congrArg Prod.snd (mask_slashes raw)
        exact follows_of_summary hraw (Prod.ext hcode rfl) rfl hopens

/-- A line that begins in a comment from an earlier line is a comment to its end, for the lexer that
takes it so. -/
theorem follows_readInside (raw : List Char) :
    (readInside "*/".toList raw).Follows ((slashLexer true).lexLine (.block true) raw) := by
  have htrim : ((slashLexer true).lexLine (.block true) raw).summary
      = ((slashLexer true).lexLine (.block true) (Text.trim raw)).summary := summary_block_trim raw
  have hsummary : ((slashLexer true).lexLine (.block true) (Text.trim raw)).summary
      = (false, if Text.occursIn "*/".toList (Text.trim raw) then none else some "*/".toList) := by
    rw [LexedLine.summary_eq, outcome_block, Text.occursIn]
    cases hsplit : Text.splitFirst "*/".toList (Text.trim raw) with
    | none => rfl
    | some split =>
      have hcomment : ((slashLexer true).lexLine .lineComment split.2).summary = (false, none) :=
        summary_lineComment split.2
      exact hcomment
  by_cases hraw : (Text.trim raw).isEmpty = true
  · have hkind := (slashLexer true).kind_lexLine (.block true) raw
    rw [if_pos hraw] at hkind
    refine ⟨?_, (congrArg Prod.snd (htrim.trans hsummary)).symm⟩
    rw [hkind]
    unfold readInside
    dsimp only
    rw [if_pos hraw]
  · refine follows_of_summary hraw (htrim.trans hsummary) ?_ rfl
    unfold readInside
    dsimp only
    rw [if_neg hraw]
    rfl

/-! ### All lines -/

theorem endLine_slashLexer (s : SlashState) :
    (slashLexer toLineEnd).endLine s = if s.opens.isSome then .block true else .code := by
  cases s <;> rfl

theorem beginsLine_endLine (s : SlashState) : ((slashLexer toLineEnd).endLine s).BeginsLine := by
  rw [endLine_slashLexer]
  split
  · exact .inr rfl
  · exact .inl rfl

theorem opens_endLine (s : SlashState) : ((slashLexer toLineEnd).endLine s).opens = s.opens := by
  cases s <;> rfl

theorem follows_readLine {s : SlashState} (hs : s.BeginsLine) (raw : List Char) :
    (readLine .slashes s.opens raw).Follows ((slashLexer true).lexLine s raw) := by
  rcases hs with rfl | rfl
  · exact follows_readOutside raw
  · exact follows_readInside raw

/-- The kinds of lines are those that the lexer finds for which comments reach to the end of the
line. -/
theorem kinds_listLines {s : SlashState} (hs : s.BeginsLine) (number : Nat)
    (raws : List (List Char)) :
    (listLines .slashes number s.opens raws).map (·.kind)
      = ((slashLexer true).lexLines s raws).map (·.kind) := by
  induction raws generalizing s number with
  | nil => rfl
  | cons raw raws ih =>
    have hfollows := follows_readLine hs raw
    have hopens : (readLine .slashes s.opens raw).opens
        = ((slashLexer true).endLine ((slashLexer true).lexLine s raw).stop).opens := by
      rw [opens_endLine, hfollows.opens_eq]
    rw [listLines, Lexer.lexLines, List.map_cons, List.map_cons, hopens, ih (beginsLine_endLine _)]
    exact congrArg (· :: _) hfollows.kind_eq

/-! ### Where the two lexers differ -/

/-- Outside of comments from earlier lines both lexers do the same, and never enter such a comment.
-/
theorem read_of_not_isCarried {s : SlashState} (hs : s.isCarried = false) (c : Char)
    (cs : List Char) :
    (slashLexer true).read s c cs = (slashLexer false).read s c cs ∧
      ((slashLexer false).read s c cs).2.isCarried = false := by
  cases s with
  | code =>
    refine ⟨rfl, ?_⟩
    rw [read_code]
    split
    · rfl
    · split
      · rfl
      · split <;> rfl
  | string mark escaped =>
    cases escaped with
    | true => exact ⟨rfl, rfl⟩
    | false =>
      refine ⟨rfl, ?_⟩
      simp only [slashLexer]
      split
      · rfl
      · split <;> rfl
  | lineComment | opening => exact ⟨rfl, rfl⟩
  | block carried =>
    cases hs
    refine ⟨rfl, ?_⟩
    simp only [slashLexer]
    split <;> rfl
  | closing carried =>
    cases hs
    exact ⟨rfl, rfl⟩

theorem lexLine_of_not_isCarried {s : SlashState} (hs : s.isCarried = false) (cs : List Char) :
    (slashLexer true).lexLine s cs = (slashLexer false).lexLine s cs ∧
      ((slashLexer false).lexLine s cs).stop.isCarried = false := by
  induction cs generalizing s with
  | nil => exact ⟨rfl, hs⟩
  | cons c cs ih =>
    obtain ⟨hread, hnext⟩ := read_of_not_isCarried hs c cs
    obtain ⟨hline, hstop⟩ := ih hnext
    rw [Lexer.lexLine, Lexer.lexLine, hread, hline]
    exact ⟨rfl, hstop⟩

/-- A line of blanks holds no code. -/
theorem holdsCode_block_of_blank {raw : List Char} (h : (Text.trim raw).isEmpty = true) :
    ((slashLexer toLineEnd).lexLine (.block carried) raw).holdsCode = false := by
  have htrim : _ = ((slashLexer toLineEnd).lexLine (.block carried) (Text.trim raw)).holdsCode :=
    congrArg Prod.fst (summary_block_trim raw)
  rw [List.isEmpty_iff.1 h] at htrim
  exact htrim

/-- A comment from an earlier line that reaches to the end of the line leaves no code in it. -/
theorem holdsCode_carried (raw : List Char) :
    ((slashLexer true).lexLine (.block true) raw).holdsCode = false := by
  have hcode : _ = Prod.fst _ := congrArg Prod.fst (outcome_block true true raw)
  refine hcode.trans ?_
  cases Text.splitFirst "*/".toList raw with
  | none => rfl
  | some split =>
    exact congrArg Prod.fst (summary_lineComment split.2)

/-- The same comment is open after a line in both lexers. -/
theorem opens_carried {raw : List Char}
    (h : ((slashLexer false).lexLine (.block true) raw).ReopensNothing) :
    ((slashLexer true).lexLine (.block true) raw).stop.opens
      = ((slashLexer false).lexLine (.block true) raw).stop.opens := by
  have hwhole : ((slashLexer true).lexLine (.block true) raw).stop = Prod.snd _ :=
    congrArg Prod.snd (outcome_block true true raw)
  have hpart : ((slashLexer false).lexLine (.block true) raw).stop = Prod.snd _ :=
    congrArg Prod.snd (outcome_block false true raw)
  cases hsplit : Text.splitFirst "*/".toList raw with
  | none =>
    rw [hsplit] at hwhole hpart
    rw [hwhole, hpart]
    rfl
  | some split =>
    rw [hsplit] at hwhole hpart
    have hcomment : ((slashLexer true).lexLine .lineComment split.2).stop.opens = none :=
      congrArg Prod.snd (summary_lineComment split.2)
    have hnone : ((slashLexer false).lexLine (.block true) raw).stop.opens = none := by
      rcases h (Lexer.start_lexLine _ _ _) with hnone | hblock
      · exact hnone
      · -- After the mark, the lexer cannot be in a comment from an earlier line.
        have hcarried : ((slashLexer false).lexLine .code split.2).stop.isCarried = false :=
          (lexLine_of_not_isCarried rfl split.2).2
        have hstop : ((slashLexer false).lexLine .code split.2).stop = .block true :=
          hpart.symm.trans hblock
        rw [hstop] at hcarried
        cases hcarried
    rw [hnone, hwhole]
    exact hcomment

/-- The lexers find the same kind of a line, unless it begins in a comment and code follows. They go
on alike if no other comment follows. -/
theorem kind_lexLine_eq_iff {s : SlashState} (hs : s.BeginsLine) {raw : List Char}
    (h : ((slashLexer false).lexLine s raw).ReopensNothing) :
    (((slashLexer true).lexLine s raw).kind = ((slashLexer false).lexLine s raw).kind ↔
      (((slashLexer false).lexLine s raw).start = .block true →
        ((slashLexer false).lexLine s raw).holdsCode = false)) ∧
    (slashLexer true).endLine ((slashLexer true).lexLine s raw).stop
      = (slashLexer false).endLine ((slashLexer false).lexLine s raw).stop := by
  rcases hs with rfl | rfl
  · have hline := (lexLine_of_not_isCarried (s := .code) rfl raw).1
    rw [hline]
    refine ⟨?_, rfl⟩
    simp
  · refine ⟨?_, ?_⟩
    · rw [Lexer.kind_lexLine, Lexer.kind_lexLine, holdsCode_carried]
      by_cases hblank : (Text.trim raw).isEmpty = true
      · simp [hblank, holdsCode_block_of_blank hblank]
      · rw [if_neg hblank, if_neg hblank, Lexer.start_lexLine]
        cases ((slashLexer false).lexLine (.block true) raw).holdsCode <;> simp
    · rw [endLine_slashLexer, endLine_slashLexer, opens_carried h]

theorem kinds_lexLines_eq_iff {s : SlashState} (hs : s.BeginsLine) {raws : List (List Char)}
    (h : ∀ line ∈ (slashLexer false).lexLines s raws, line.ReopensNothing) :
    ((slashLexer true).lexLines s raws).map (·.kind)
        = ((slashLexer false).lexLines s raws).map (·.kind) ↔
      ∀ line ∈ (slashLexer false).lexLines s raws, line.start = .block true →
        line.holdsCode = false := by
  induction raws generalizing s with
  | nil => simp [Lexer.lexLines]
  | cons raw raws ih =>
    rw [Lexer.lexLines, List.forall_mem_cons] at h
    obtain ⟨hkind, hend⟩ := kind_lexLine_eq_iff hs h.1
    rw [Lexer.lexLines, Lexer.lexLines, List.forall_mem_cons, List.map_cons, List.map_cons,
      List.cons.injEq, hend, hkind, ih (beginsLine_endLine _) h.2]

end Slashes

open Slashes

/-- **The kinds of lines with slash comments**, for every text. A listing finds the kinds that the
lexer finds for which a comment from an earlier line goes to the end of the line that closes it.
Suppose that no line closes such a comment and leaves another one open. Then the lexer that leaves
the comment at its closing mark finds the same kinds if and only if no line that begins in a comment
holds code. -/
theorem kinds_of_slash_listing (text : List Char) :
    let lexed := (slashLexer false).lines .code text
    lexed.map (·.raw) = Text.lines text ∧
    (listing .slashes text).map (·.kind) = ((slashLexer true).lines .code text).map (·.kind) ∧
    ((∀ line ∈ lexed, line.start = .block true →
        line.stop.opens = none ∨ line.stop = .block true) →
      ((listing .slashes text).map (·.kind) = lexed.map (·.kind) ↔
        ∀ line ∈ lexed, line.start = .block true → line.holdsCode = false)) := by
  intro lexed
  have hlexed : lexed = (slashLexer false).lexLines .code (Text.lines text) :=
    Lexer.lines_eq_lexLines isLocal_slashLexer .code text
  have hwhole : (listing .slashes text).map (·.kind)
      = ((slashLexer true).lexLines .code (Text.lines text)).map (·.kind) :=
    kinds_listLines (.inl rfl) 1 (Text.lines text)
  refine ⟨?_, ?_, ?_⟩
  · rw [hlexed, Lexer.map_raw_lexLines]
  · rw [hwhole, Lexer.lines_eq_lexLines isLocal_slashLexer]
  · rw [hwhole, hlexed]
    exact kinds_lexLines_eq_iff (.inl rfl)

/-- Code that follows a comment from an earlier line is not seen. -/
theorem kinds_of_slash_listing_resumed :
    let text := "/* a\nb */ x = 1;\n".toList
    (listing .slashes text).map (·.kind) = [.comment, .comment] ∧
      ((slashLexer false).lines .code text).map (·.kind) = [.comment, .code] := by
  decide

end SourceReview
