import SourceReview.Proofs.Lexing.Basic
import SourceReview.Proofs.Listing.Relisting

/-!
# Comments after hash signs, and texts between triple quotation marks

Which lines a listing with hash comments takes for code, compared with what a lexer says of every
character (`plain_lines_are_code`).

A listing looks for triple quotation marks only where a line begins. Such a text is a docstring, and
the listing remembers that it is open; a text that begins in the middle of a line is taken for
quotations line by line, and nothing is remembered of it. The listing and the lexer stay in step
until a line inside of such a text begins with triple quotation marks that the line does not repeat,
which the listing takes for those of a docstring.
-/

namespace SourceReview

/-- The quotation marks that can be tripled. -/
inductive QuoteMark where
  | single
  | double
  deriving DecidableEq, Repr

namespace QuoteMark

def char : QuoteMark → Char
  | .single => '\x27'
  | .double => '"'

/-- The mark around texts that may go over many lines. -/
def triple (m : QuoteMark) : List Char := [m.char, m.char, m.char]

/-- The quotation mark that a character is. -/
def ofChar? (c : Char) : Option QuoteMark := [single, double].find? (·.char == c)

end QuoteMark

/-- Where a lexer for hash comments stands. -/
inductive HashState where
  /-- In code, with nothing but blanks before it in its line or not. -/
  | code (fresh : Bool)
  /-- In a quotation, after a backslash or not. -/
  | string (mark : QuoteMark) (escaped : Bool)
  | comment
  /-- In the triple mark that opens a text, before the last `left + 1` characters of it. -/
  | opening (mark : QuoteMark) (docstring : Bool) (left : Nat)
  /-- In a text between triple marks. It is a docstring if it is the first thing in its line. -/
  | triple (mark : QuoteMark) (docstring : Bool)
  /-- In the triple mark that closes a text, before the last `left + 1` characters of it. -/
  | closing (left : Nat)
  deriving DecidableEq, Repr

/-- The lexer for hash comments. Quotations stand between two of the same quotation mark, with
backslashes as escapes, and end with their line; triple quotation marks open a text wherever they
stand in code, and the same mark closes it; comments begin with a hash sign. What is fresh and what
is a docstring has no effect on the regions. -/
def hashLexer : Lexer HashState where
  read
    | .code fresh, c, cs =>
      if c = '#' then (.lineComment, .comment)
      else
        match QuoteMark.ofChar? c with
        | some mark =>
          if cs.take 2 = [c, c] then (.block, .opening mark fresh 1)
          else (.string, .string mark false)
        | none => (.code, .code (fresh && Text.isBlank c))
    | .string mark true, _, _ => (.string, .string mark false)
    | .string mark false, c, _ =>
      if c = '\\' then (.string, .string mark true)
      else if c = mark.char then (.string, .code false)
      else (.string, .string mark false)
    | .comment, _, _ => (.lineComment, .comment)
    | .opening mark docstring 0, _, _ => (.block, .triple mark docstring)
    | .opening mark docstring (left + 1), _, _ => (.block, .opening mark docstring left)
    | .triple mark docstring, c, cs =>
      if c = mark.char ∧ cs.take 2 = [c, c] then (.block, .closing 1)
      else (.block, .triple mark docstring)
    | .closing 0, _, _ => (.block, .code false)
    | .closing (left + 1), _, _ => (.block, .closing left)
  endLine
    | .opening mark docstring _ | .triple mark docstring => .triple mark docstring
    | _ => .code true

namespace HashState

/-- The mark that closes the docstring that is open. -/
def opens : HashState → Option (List Char)
  | .opening mark true _ | .triple mark true => some mark.triple
  | _ => none

/-- Whether no docstring is open, and none can begin in the rest of the line. -/
def isPast : HashState → Bool
  | .code fresh => !fresh
  | .opening _ docstring _ | .triple _ docstring => !docstring
  | .string _ _ | .comment | .closing _ => true

/-- Whether a text between triple marks is open that is not a docstring. -/
def isInline : HashState → Bool
  | .triple _ docstring => !docstring
  | _ => false

/-- A line begins in code or in a text between triple marks. -/
def BeginsLine (s : HashState) : Prop :=
  s = .code true ∨ ∃ mark docstring, s = .triple mark docstring

end HashState

/-- Whether a line begins with triple quotation marks that it does not repeat. -/
def beginsDocstring (raw : List Char) : Bool :=
  [QuoteMark.double, .single].any fun mark =>
    (Text.after? mark.triple (Text.trim raw)).any fun body => !Text.occursIn mark.triple body

/-- Whether a line in the middle of a text between triple marks looks like the beginning of a
docstring, where the text itself is not a docstring. -/
def LexedLine.misleads (line : LexedLine HashState) : Bool :=
  line.start.isInline && beginsDocstring line.raw

/-! ### Quotation marks -/

namespace QuoteMark

theorem ofChar?_char (m : QuoteMark) : ofChar? m.char = some m := by cases m <;> rfl

theorem char_of_ofChar? {c : Char} {m : QuoteMark} (h : ofChar? c = some m) : c = m.char := by
  have hchar := List.find?_some h
  simpa using (eq_of_beq hchar).symm

theorem isBlank_char (m : QuoteMark) : Text.isBlank m.char = false := by cases m <;> decide

theorem ofChar?_blank {c : Char} (hc : Text.isBlank c = true) : ofChar? c = none := by
  cases h : ofChar? c with
  | none => rfl
  | some m => exact absurd (char_of_ofChar? h) (Text.ne_of_isBlank hc m.isBlank_char)

/-- A line begins with one triple mark only. -/
theorem eq_of_triple_append {mark mark' : QuoteMark} {body body' : List Char}
    (h : mark.triple ++ body = mark'.triple ++ body') : mark = mark' ∧ body = body' := by
  have hchar : mark.char = mark'.char := (List.cons.inj h).1
  have hmark : mark = mark' := by
    have hsome := mark.ofChar?_char
    rw [hchar, mark'.ofChar?_char] at hsome
    exact (Option.some.inj hsome).symm
  subst hmark
  exact ⟨rfl, List.append_cancel_left h⟩

end QuoteMark

/-- What can be read from a line outside of docstrings, by what it begins with. -/
inductive Reading.OfHashes (raw : List Char) (r : Reading) : Prop where
  | blank (htrim : Text.trim raw = []) (hkind : r.kind = .blank) (hopens : r.opens = none)
  | comment (body : List Char) (htrim : Text.trim raw = '#' :: body) (hopens : r.opens = none)
  | docstring (mark : QuoteMark) (body : List Char) (htrim : Text.trim raw = mark.triple ++ body)
      (hbody : Text.occursIn mark.triple body = false) (hopens : r.opens = some mark.triple)
  | closed (mark : QuoteMark) (body : List Char) (htrim : Text.trim raw = mark.triple ++ body)
      (hbody : Text.occursIn mark.triple body = true) (hopens : r.opens = none)
  | code (c : Char) (cs : List Char) (htrim : Text.trim raw = c :: cs) (hhash : c ≠ '#')
      (hmark : ∀ mark : QuoteMark, ¬ Text.startsWith (c :: cs) mark.triple = true)
      (hkind : r.kind = .code) (hopens : r.opens = none)

namespace Hashes

/-- Whether two characters follow is settled before a blank. -/
theorem take_two_append_blank_iff {c d : Char} (hc : Text.isBlank c = false)
    (hd : Text.isBlank d = true) (cs rest : List Char) :
    (cs ++ d :: rest).take 2 = [c, c] ↔ cs.take 2 = [c, c] := by
  have hne : d ≠ c := Text.ne_of_isBlank hd hc
  match cs with
  | [] => simp [hne]
  | [a] => simp [hne]
  | a :: b :: cs => simp

/-! ### One line -/

theorem isLocal_hashLexer : hashLexer.IsLocal := by
  intro s c cs d rest hd
  cases s with
  | code fresh =>
    simp only [hashLexer]
    cases hmark : QuoteMark.ofChar? c with
    | none => rfl
    | some mark =>
      have hc : Text.isBlank c = false := by
        rw [QuoteMark.char_of_ofChar? hmark]
        exact mark.isBlank_char
      simp only [take_two_append_blank_iff hc hd]
  | string mark escaped => cases escaped <;> rfl
  | comment => rfl
  | opening mark docstring left => cases left <;> rfl
  | triple mark docstring =>
    simp only [hashLexer]
    by_cases hc : c = mark.char
    · subst hc
      simp only [take_two_append_blank_iff mark.isBlank_char hd]
    · simp only [hc, false_and]
  | closing left => cases left <;> rfl

theorem read_fresh_blank (c : Char) (cs : List Char) (hc : Text.isBlank c = true) :
    hashLexer.read (.code true) c cs = (.code, .code true) := by
  have hhash : c ≠ '#' := Text.ne_of_isBlank hc (by decide)
  simp [hashLexer, hhash, QuoteMark.ofChar?_blank hc, hc]

theorem read_triple_blank (mark : QuoteMark) (docstring : Bool) (c : Char) (cs : List Char)
    (hc : Text.isBlank c = true) :
    hashLexer.read (.triple mark docstring) c cs = (.block, .triple mark docstring) := by
  have hmark : c ≠ mark.char := Text.ne_of_isBlank hc mark.isBlank_char
  simp [hashLexer, hmark]

theorem opens_of_isPast {s : HashState} (h : s.isPast = true) : s.opens = none := by
  cases s with
  | code fresh | string mark escaped | comment | closing left => rfl
  | opening mark docstring left | triple mark docstring =>
    cases docstring with
    | true => cases h
    | false => rfl

/-- Where no docstring can begin, none can begin later in the line. -/
theorem isPast_read {s : HashState} (h : s.isPast = true) (c : Char) (cs : List Char) :
    (hashLexer.read s c cs).2.isPast = true := by
  cases s with
  | code fresh =>
    cases fresh with
    | true => cases h
    | false =>
      simp only [hashLexer]
      split
      · rfl
      · split
        · split <;> rfl
        · rfl
  | string mark escaped =>
    cases escaped with
    | true => rfl
    | false =>
      simp only [hashLexer]
      split
      · rfl
      · split <;> rfl
  | comment => rfl
  | opening mark docstring left => cases left <;> exact h
  | triple mark docstring =>
    simp only [hashLexer]
    split
    · rfl
    · exact h
  | closing left => cases left <;> rfl

theorem opens_stop_of_isPast {s : HashState} (h : s.isPast = true) (cs : List Char) :
    (hashLexer.lexLine s cs).stop.opens = none := by
  induction cs generalizing s with
  | nil => exact opens_of_isPast h
  | cons c cs ih => exact ih (isPast_read h c cs)

/-- Blanks open and close no docstring. -/
theorem opens_read_blank (s : HashState) (c : Char) (cs : List Char)
    (hc : Text.isBlank c = true) : (hashLexer.read s c cs).2.opens = s.opens := by
  cases hpast : s.isPast with
  | true => rw [opens_of_isPast hpast, opens_of_isPast (isPast_read hpast c cs)]
  | false =>
    cases s with
    | code fresh =>
      cases fresh with
      | true => rw [read_fresh_blank c cs hc]
      | false => cases hpast
    | triple mark docstring => rw [read_triple_blank mark docstring c cs hc]
    | opening mark docstring left => cases docstring <;> cases left <;> rfl
    | string mark escaped | comment | closing left => cases hpast

/-- A text between triple marks goes to the first closing mark, or to the end of the line. -/
theorem outcome_triple (mark : QuoteMark) (docstring : Bool) (cs : List Char) :
    (hashLexer.lexLine (.triple mark docstring) cs).outcome
      = (Text.splitFirst mark.triple cs).elim (false, .triple mark docstring) fun split =>
          (hashLexer.lexLine (.code false) split.2).outcome := by
  apply Lexer.outcome_lexLine_until (List.cons_ne_nil _ _)
  · intro c cs hstart
    have hmark : ¬ (c = mark.char ∧ cs.take 2 = [c, c]) := fun h =>
      Bool.false_ne_true (hstart.symm.trans (Text.startsWith_triple_iff.2 h))
    simp only [hashLexer]
    rw [if_neg hmark]
  · intro rest
    cases mark <;> rfl

/-- After a line in which a text between triple marks is open, a docstring is open if the text is
one and has not been closed. -/
theorem opens_stop_triple (mark : QuoteMark) (docstring : Bool) (cs : List Char) :
    (hashLexer.lexLine (.triple mark docstring) cs).stop.opens
      = if Text.occursIn mark.triple cs then none else (HashState.triple mark docstring).opens := by
  have hstop : (hashLexer.lexLine (.triple mark docstring) cs).stop = Prod.snd _ :=
    congrArg Prod.snd (outcome_triple mark docstring cs)
  rw [hstop, Text.occursIn]
  cases Text.splitFirst mark.triple cs with
  | none => rfl
  | some split => exact opens_stop_of_isPast rfl split.2

/-! ### Lines as they are read -/

theorem beginsLineComment_hashes (cs : List Char) :
    CommentStyle.hashes.beginsLineComment cs = Text.startsWith cs "#".toList :=
  Bool.or_false _

/-- A triple mark at the beginning of a line. -/
theorem exists_of_blockAt?_hashes {cs : List Char} {block : BlockMark}
    (h : CommentStyle.hashes.blockAt? cs = some block) :
    ∃ (mark : QuoteMark) (body : List Char),
      block = ⟨mark.triple, mark.triple⟩ ∧ cs = mark.triple ++ body := by
  have hmem := List.mem_of_find?_eq_some h
  have hstart := List.find?_some h
  obtain ⟨body, hbody⟩ := Text.startsWith_iff.1 hstart
  have hmark : block = ⟨QuoteMark.double.triple, QuoteMark.double.triple⟩ ∨
      block = ⟨QuoteMark.single.triple, QuoteMark.single.triple⟩ :=
    (List.mem_cons.1 hmem).imp_right List.mem_singleton.1
  rcases hmark with rfl | rfl
  · exact ⟨.double, body, rfl, hbody.symm⟩
  · exact ⟨.single, body, rfl, hbody.symm⟩

theorem not_startsWith_of_blockAt?_hashes {cs : List Char}
    (h : CommentStyle.hashes.blockAt? cs = none) (mark : QuoteMark) :
    ¬ Text.startsWith cs mark.triple = true := by
  have hnone := List.find?_eq_none.1 h
  cases mark with
  | single => exact hnone ⟨QuoteMark.single.triple, QuoteMark.single.triple⟩ (by decide)
  | double => exact hnone ⟨QuoteMark.double.triple, QuoteMark.double.triple⟩ (by decide)

/-- Masking leaves nothing open. -/
theorem opens_mask_hashes (cs : List Char) : (mask .hashes cs).opens = none := by
  have hinline : ∀ cs, CommentStyle.hashes.inlineBlockAt? cs = none := by
    intro cs
    simp [CommentStyle.inlineBlockAt?, CommentStyle.hashes]
  have hfrom : ∀ state cs, (maskFrom .hashes state cs).opens = none := by
    intro state cs
    fun_induction maskFrom .hashes state cs with
    | case1 => rfl
    | case2 mark c cs ih => exact ih
    | case3 mark cs ih => exact ih
    | case4 mark cs hescape ih => exact ih
    | case5 mark c cs hescape hmark ih => exact ih
    | case6 skip c cs ih => exact ih
    | case7 c cs hquote ih => exact ih
    | case8 c cs hquote hline => rfl
    | case9 c cs hquote hline hblock ih => exact ih
    | case10 c cs hquote hline mark hblock length hclosed ih => exact ih
    | case11 c cs hquote hline mark hblock hopen =>
      rw [hinline] at hblock
      cases hblock
  exact hfrom (.code 0) cs

theorem ofHashes_readOutside (raw : List Char) :
    (readOutside .hashes raw).OfHashes raw := by
  unfold readOutside
  dsimp only
  split
  case isTrue hempty => exact .blank (List.isEmpty_iff.1 hempty) rfl rfl
  case isFalse hraw =>
    split
    case isTrue hline =>
      rw [beginsLineComment_hashes] at hline
      obtain ⟨body, hbody⟩ := Text.startsWith_iff.1 hline
      exact .comment body hbody.symm rfl
    case isFalse hline =>
      split
      · rename_i block hblock
        obtain ⟨mark, body, rfl, htrim⟩ := exists_of_blockAt?_hashes hblock
        have hdrop : (Text.trim raw).drop mark.triple.length = body := by
          rw [htrim, List.drop_left]
        dsimp only
        rw [hdrop]
        split
        · rename_i inside rest hsplit
          exact .closed mark body htrim (by simp [Text.occursIn, hsplit]) (opens_mask_hashes _)
        · rename_i hsplit
          exact .docstring mark body htrim (by simp [Text.occursIn, hsplit]) rfl
      · rename_i hblock
        cases htrim : Text.trim raw with
        | nil => simp [htrim] at hraw
        | cons c cs =>
          have hhash : c ≠ '#' := by
            rintro rfl
            rw [htrim, beginsLineComment_hashes] at hline
            exact hline (Text.startsWith_iff.2 ⟨cs, rfl⟩)
          rw [htrim] at hblock
          exact .code c cs htrim hhash (not_startsWith_of_blockAt?_hashes hblock) rfl
            (opens_mask_hashes raw)

theorem beginsDocstring_iff {raw : List Char} :
    beginsDocstring raw = true ↔ ∃ (mark : QuoteMark) (body : List Char),
      Text.trim raw = mark.triple ++ body ∧ Text.occursIn mark.triple body = false := by
  unfold beginsDocstring
  rw [List.any_eq_true]
  constructor
  · rintro ⟨mark, -, hmark⟩
    cases hbody : Text.after? mark.triple (Text.trim raw) with
    | none => simp [hbody] at hmark
    | some body =>
      rw [hbody] at hmark
      exact ⟨mark, body, Text.after?_eq_some_iff.1 hbody, by simpa using hmark⟩
  · rintro ⟨mark, body, htrim, hbody⟩
    refine ⟨mark, by cases mark <;> decide, ?_⟩
    rw [Text.after?_eq_some_iff.2 htrim]
    simp [hbody]

/-- Outside of docstrings, one is opened by the lines that look like it. -/
theorem isSome_opens_readOutside (raw : List Char) :
    (readOutside .hashes raw).opens.isSome = beginsDocstring raw := by
  rw [Bool.eq_iff_iff, beginsDocstring_iff]
  cases ofHashes_readOutside raw with
  | blank htrim _ hopens =>
    rw [hopens, htrim]
    simp [QuoteMark.triple]
  | comment body htrim hopens =>
    rw [hopens, htrim]
    refine ⟨fun h => absurd h Bool.false_ne_true, ?_⟩
    rintro ⟨mark, body', hbody, -⟩
    have hchar : '#' = mark.char := (List.cons.inj hbody).1
    cases mark <;> exact absurd hchar (by decide)
  | docstring mark body htrim hbody hopens =>
    rw [hopens]
    exact ⟨fun _ => ⟨mark, body, htrim, hbody⟩, fun _ => rfl⟩
  | closed mark body htrim hbody hopens =>
    rw [hopens, htrim]
    refine ⟨fun h => absurd h Bool.false_ne_true, ?_⟩
    rintro ⟨mark', body', heq, hbody'⟩
    obtain ⟨rfl, rfl⟩ := QuoteMark.eq_of_triple_append heq
    rw [hbody] at hbody'
    cases hbody'
  | code c cs htrim _ hmark _ hopens =>
    rw [hopens, htrim]
    refine ⟨fun h => absurd h Bool.false_ne_true, ?_⟩
    rintro ⟨mark, body, hbody, -⟩
    exact absurd (Text.startsWith_iff.2 ⟨body, hbody.symm⟩) (hmark mark)

/-- A line that begins with neither a hash sign nor a triple mark is past its beginning after the
first character. -/
theorem isPast_read_head {c : Char} {cs : List Char} (hblank : Text.isBlank c = false)
    (hhash : c ≠ '#') (hmark : ∀ mark : QuoteMark, ¬ Text.startsWith (c :: cs) mark.triple = true) :
    (hashLexer.read (.code true) c cs).2.isPast = true := by
  simp only [hashLexer]
  rw [if_neg hhash]
  cases hquote : QuoteMark.ofChar? c with
  | none => simp [HashState.isPast, hblank]
  | some mark =>
    have htriple : ¬ cs.take 2 = [c, c] := fun h =>
      hmark mark (Text.startsWith_triple_iff.2 ⟨QuoteMark.char_of_ofChar? hquote, h⟩)
    simp [htriple, HashState.isPast]

/-- The triple mark at the beginning of a line opens a docstring. -/
theorem stop_fresh_triple (mark : QuoteMark) (body : List Char) :
    (hashLexer.lexLine (.code true) (mark.triple ++ body)).stop
      = (hashLexer.lexLine (.triple mark true) body).stop := by
  cases mark <;> rfl

/-- A line that begins in code opens a docstring in the listing if it does so in the lexer. -/
theorem opens_readOutside (raw : List Char) :
    (readOutside .hashes raw).opens = (hashLexer.lexLine (.code true) raw).stop.opens := by
  rw [(Lexer.lexLine_trim isLocal_hashLexer opens_read_blank read_fresh_blank raw).2]
  cases ofHashes_readOutside raw with
  | blank htrim _ hopens =>
    rw [hopens, htrim]
    rfl
  | comment body htrim hopens =>
    rw [hopens, htrim]
    exact (opens_stop_of_isPast (s := .comment) rfl body).symm
  | docstring mark body htrim hbody hopens =>
    rw [hopens, htrim, stop_fresh_triple, opens_stop_triple, hbody]
    rfl
  | closed mark body htrim hbody hopens =>
    rw [hopens, htrim, stop_fresh_triple, opens_stop_triple, hbody]
    rfl
  | code c cs htrim hhash hmark _ hopens =>
    have hpast := isPast_read_head (Text.isBlank_of_trim_eq_cons htrim) hhash hmark
    rw [hopens, htrim]
    exact (opens_stop_of_isPast hpast cs).symm

/-! ### Plain lines -/

/-- In a plain line that begins in code, the first character that is not blank belongs to the
program. -/
theorem isProgram_head {raw cs : List Char} {c : Char} (htrim : Text.trim raw = c :: cs)
    (hplain : (hashLexer.lexLine (.code true) raw).isPlain = true) :
    (hashLexer.read (.code true) c cs).1.isProgram = true := by
  obtain ⟨lead, trail, heq, hlead, htrail⟩ := Text.exists_eq_trim raw
  rw [heq, Lexer.lexLine_lead read_fresh_blank hlead, htrim,
    Lexer.lexLine_trail isLocal_hashLexer _ _ htrail] at hplain
  unfold LexedLine.isPlain at hplain
  rw [List.all_append, List.all_append, Bool.and_eq_true, Bool.and_eq_true] at hplain
  have hmarks := hplain.2.1
  rw [Lexer.lexLine, LexedLine.cons, List.all_cons, Bool.and_eq_true] at hmarks
  exact hmarks.1

theorem kind_readOutside_of_isPlain {raw : List Char}
    (hplain : (hashLexer.lexLine (.code true) raw).isPlain = true)
    (hblank : (readOutside .hashes raw).kind ≠ .blank) :
    (readOutside .hashes raw).kind = .code := by
  have htriple : ∀ mark : QuoteMark, ∀ body, Text.trim raw ≠ mark.triple ++ body := by
    intro mark body htrim
    have hprogram := isProgram_head htrim hplain
    cases mark <;> cases hprogram
  cases ofHashes_readOutside raw with
  | blank _ hkind _ => exact absurd hkind hblank
  | comment body htrim _ =>
    have hprogram := isProgram_head htrim hplain
    cases hprogram
  | docstring mark body htrim _ _ => exact absurd htrim (htriple mark body)
  | closed mark body htrim _ _ => exact absurd htrim (htriple mark body)
  | code c cs _ _ _ hkind _ => exact hkind

/-- A line that begins between triple marks is not plain, if there is anything in it. -/
theorem isPlain_triple (mark : QuoteMark) (docstring : Bool) (c : Char) (cs : List Char) :
    (hashLexer.lexLine (.triple mark docstring) (c :: cs)).isPlain = false := by
  have hregion : (hashLexer.read (.triple mark docstring) c cs).1 = .block := by
    simp only [hashLexer]
    split <;> rfl
  rw [Lexer.lexLine, hregion]
  rfl

/-- A plain line is code in the listing, if the listing and the lexer have the same docstring open.
-/
theorem kind_readLine_of_isPlain {s : HashState} (hs : s.BeginsLine) {raw : List Char}
    (hplain : (hashLexer.lexLine s raw).isPlain = true)
    (hblank : (readLine .hashes s.opens raw).kind ≠ .blank) :
    (readLine .hashes s.opens raw).kind = .code := by
  rcases hs with rfl | ⟨mark, docstring, rfl⟩
  · exact kind_readOutside_of_isPlain hplain hblank
  · cases raw with
    | nil => exact absurd (kind_readLine_nil _ _) hblank
    | cons c cs =>
      rw [isPlain_triple] at hplain
      cases hplain

/-! ### All lines -/

theorem beginsLine_endLine (s : HashState) : (hashLexer.endLine s).BeginsLine := by
  cases s with
  | opening mark docstring left | triple mark docstring => exact .inr ⟨mark, docstring, rfl⟩
  | code fresh | string mark escaped | comment | closing left => exact .inl rfl

theorem opens_endLine (s : HashState) : (hashLexer.endLine s).opens = s.opens := by
  cases s with
  | opening mark docstring left => cases docstring <;> rfl
  | code fresh | string mark escaped | comment | triple mark docstring | closing left => rfl

/-- The listing and the lexer have the same docstring open after a line that does not mislead, if
they have the same one open before it. -/
theorem opens_readLine {s : HashState} (hs : s.BeginsLine) {raw : List Char}
    (h : (hashLexer.lexLine s raw).misleads = false) :
    (readLine .hashes s.opens raw).opens = (hashLexer.lexLine s raw).stop.opens := by
  rcases hs with rfl | ⟨mark, docstring, rfl⟩
  · exact opens_readOutside raw
  · cases docstring with
    | true =>
      rw [(Lexer.lexLine_trim isLocal_hashLexer opens_read_blank
        (read_triple_blank mark true) raw).2, opens_stop_triple]
      rfl
    | false =>
      -- No docstring begins in the lexer, and the listing takes the line for one outside of it all.
      have hbegins : beginsDocstring raw = false := by
        unfold LexedLine.misleads at h
        rw [Lexer.start_lexLine, Lexer.raw_lexLine] at h
        exact h
      have hnone := isSome_opens_readOutside raw
      rw [hbegins, Option.isSome_eq_false_iff, Option.isNone_iff_eq_none] at hnone
      rw [opens_stop_of_isPast rfl]
      exact hnone

/-- A line that misleads opens a docstring in the listing. -/
theorem isSome_opens_of_misleads {s : HashState} {raw : List Char}
    (h : (hashLexer.lexLine s raw).misleads = true) :
    (readLine .hashes s.opens raw).opens.isSome = true := by
  unfold LexedLine.misleads at h
  rw [Lexer.start_lexLine, Lexer.raw_lexLine, Bool.and_eq_true] at h
  obtain ⟨hinline, hbegins⟩ := h
  have hopens : s.opens = none := by
    cases s with
    | triple mark docstring =>
      cases docstring with
      | true => cases hinline
      | false => rfl
    | code _ | string _ _ | comment | opening _ _ _ | closing _ => cases hinline
  rw [hopens]
  exact (isSome_opens_readOutside raw).trans hbegins

/-- As long as no line misleads, the listing and the lexer have the same docstring open. -/
theorem openAfter_hashes {s : HashState} (hs : s.BeginsLine) {raws : List (List Char)}
    (h : ∀ line ∈ hashLexer.lexLines s raws, line.misleads = false) :
    openAfter .hashes s.opens raws = (hashLexer.startAfter s raws).opens ∧
      (hashLexer.startAfter s raws).BeginsLine := by
  induction raws generalizing s with
  | nil => exact ⟨rfl, hs⟩
  | cons raw raws ih =>
    rw [Lexer.lexLines, List.forall_mem_cons] at h
    have hopens : (readLine .hashes s.opens raw).opens
        = (hashLexer.endLine (hashLexer.lexLine s raw).stop).opens := by
      rw [opens_readLine hs h.1, opens_endLine]
    have hrest := ih (beginsLine_endLine _) h.2
    rw [← hopens] at hrest
    exact hrest

/-- The mark that is open after one more line. -/
theorem openAfter_take_succ (style : CommentStyle) (opens : Option (List Char))
    {raws : List (List Char)} {n : Nat} {raw : List Char} (h : raws[n]? = some raw) :
    openAfter style opens (raws.take (n + 1))
      = (readLine style (openAfter style opens (raws.take n)) raw).opens := by
  unfold openAfter
  rw [List.take_add_one, h, List.foldl_append]
  rfl

end Hashes

open Hashes

/-- **Plain lines are code**, as long as the listing and the lexer are in step. Take a line of a
text with hash comments such that no line before it misleads: none that begins inside of a text
between triple marks, opened in the middle of a line, itself begins with triple marks that it does
not repeat. If the line is not blank and the lexer finds neither a comment nor a text between triple
marks in it, it is a line of code. If the line misleads, the line after it is not. -/
theorem plain_lines_are_code (text : List Char) (i : Nat) (line : SourceLine)
    (lexed : LexedLine HashState) (hline : (listing .hashes text)[i]? = some line)
    (hlexed : (hashLexer.lines (.code true) text)[i]? = some lexed)
    (hbefore : ∀ earlier ∈ (hashLexer.lines (.code true) text).take i, earlier.misleads = false) :
    lexed.raw = line.raw ∧
    (line.isBlank = false → lexed.isPlain = true → line.isCode = true) ∧
    (lexed.misleads = true → ∀ next, (listing .hashes text)[i + 1]? = some next →
      next.isCode = false) := by
  rw [Lexer.lines_eq_lexLines isLocal_hashLexer] at hlexed hbefore
  rw [Lexer.take_lexLines] at hbefore
  rw [Lexer.getElem?_lexLines] at hlexed
  unfold listing at hline
  rw [getElem?_listLines] at hline
  obtain ⟨raw, hraw, rfl⟩ := Option.map_eq_some_iff.1 hline
  rw [hraw] at hlexed
  cases hlexed
  obtain ⟨hopen, hbegins⟩ := openAfter_hashes (.inl rfl) hbefore
  generalize hashLexer.startAfter (.code true) ((Text.lines text).take i) = s at hopen hbegins
  have hopen : openAfter .hashes none ((Text.lines text).take i) = s.opens := hopen
  refine ⟨Lexer.raw_lexLine _ _ _, ?_, ?_⟩
  · intro hblank hplain
    rw [hopen] at hblank ⊢
    have hblank : (readLine .hashes s.opens raw).kind ≠ .blank := by
      simpa [SourceLine.isBlank] using hblank
    have hkind := kind_readLine_of_isPlain hbegins hplain hblank
    simp [SourceLine.isCode, hkind]
  · intro hmisleads next hnext
    have hsome := isSome_opens_of_misleads hmisleads
    obtain ⟨closing, hclosing⟩ := Option.isSome_iff_exists.1 hsome
    unfold listing at hnext
    rw [getElem?_listLines, openAfter_take_succ _ _ hraw, hopen, hclosing] at hnext
    obtain ⟨nextRaw, -, rfl⟩ := Option.map_eq_some_iff.1 hnext
    have hkind := kind_readInside_ne_code closing nextRaw
    simpa [SourceLine.isCode, readLine] using hkind

/-- The statement at the line after a text that is opened in the middle of a line and closed at the
end of the next. -/
theorem plain_lines_are_code_assigned :
    let text := "x = \"\"\"a\nb\"\"\"\ny = 1\n".toList
    ∃ line lexed, (listing .hashes text)[2]? = some line ∧
      (hashLexer.lines (.code true) text)[2]? = some lexed ∧
      (∀ earlier ∈ (hashLexer.lines (.code true) text).take 2, earlier.misleads = false) ∧
      line.isBlank = false ∧ lexed.isPlain = true ∧ line.isCode = true := by
  intro text
  have hbefore : ∀ earlier ∈ (hashLexer.lines (.code true) text).take 2,
      earlier.misleads = false := by decide
  refine ⟨_, _, rfl, rfl, hbefore, by decide, by decide, ?_⟩
  exact (plain_lines_are_code text 2 _ _ rfl rfl hbefore).2.1 (by decide) (by decide)

/-- If the text is closed at the beginning of a line instead, the line after it is lost. -/
theorem plain_lines_are_code_closed_at_margin :
    let text := "x = \"\"\"a\n\"\"\"\ny = 1\n".toList
    ∃ line lexed, (listing .hashes text)[2]? = some line ∧
      (hashLexer.lines (.code true) text)[2]? = some lexed ∧
      line.isBlank = false ∧ lexed.isPlain = true ∧ line.isCode = false :=
  ⟨_, _, rfl, rfl, by decide, by decide, by decide⟩

end SourceReview
