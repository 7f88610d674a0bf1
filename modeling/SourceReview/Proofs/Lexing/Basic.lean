import SourceReview.Listing.Basic
import SourceReview.Proofs.Text.Lines
import SourceReview.Proofs.Text.Segment

/-!
# Lexers

A lexer reads a text character by character and says of each character what it belongs to: code, a
quotation, a comment to the end of the line, or a text between block marks. It is what the kinds of
the lines in a listing are compared with.

`Lexer.lines` reads a whole text and knows nothing of its lines but where they end. A lexer that
looks ahead no further than the next blank (`Lexer.IsLocal`) may as well read one line after the
other (`Lexer.lines_eq_lexLines`), and then blanks at the ends of a line make no difference to what
it says of the rest (`Lexer.holdsCode_lexLine_lead`, `Lexer.lexLine_trail`).
-/

namespace SourceReview

/-- What a character of a source text belongs to. -/
inductive Region where
  | code
  /-- A quotation that ends with its line at the latest. -/
  | string
  | lineComment
  /-- A text between block marks, which may go over many lines. -/
  | block
  deriving DecidableEq, Repr

/-- Whether the region belongs to the program: code and quotations do. -/
def Region.isProgram : Region → Bool
  | .code | .string => true
  | .lineComment | .block => false

/-- A lexer with states of type `σ`. -/
structure Lexer (σ : Type) where
  /-- The region of a character, and the state after it. The characters that follow are known. -/
  read : σ → Char → List Char → Region × σ
  /-- The state in which the next line begins. -/
  endLine : σ → σ

/-- A line as a lexer reads it: each character with its region, and the states at both ends. -/
structure LexedLine (σ : Type) where
  start : σ
  marks : List (Char × Region)
  stop : σ
  deriving DecidableEq, Repr

namespace LexedLine

variable {σ : Type}

/-- The line that the state `start` begins with the character `c` in front of `line`. -/
def cons (start : σ) (c : Char) (region : Region) (line : LexedLine σ) : LexedLine σ :=
  ⟨start, (c, region) :: line.marks, line.stop⟩

/-- The characters of the line. -/
def raw (line : LexedLine σ) : List Char := line.marks.map (·.1)

/-- Whether a character of the line that is not blank belongs to the program. -/
def holdsCode (line : LexedLine σ) : Bool :=
  line.marks.any fun m => !Text.isBlank m.1 && m.2.isProgram

/-- Whether all characters of the line belong to the program. -/
def isPlain (line : LexedLine σ) : Bool := line.marks.all (·.2.isProgram)

/-- What the line holds: code if any character of it does. -/
def kind (line : LexedLine σ) : LineKind :=
  if line.raw.all Text.isBlank then .blank else if line.holdsCode then .code else .comment

/-- Whether the line holds code, and the state at its end. -/
def outcome (line : LexedLine σ) : Bool × σ := (line.holdsCode, line.stop)

theorem holdsCode_cons (s : σ) (c : Char) (region : Region) (line : LexedLine σ) :
    (line.cons s c region).holdsCode = (!Text.isBlank c && region.isProgram || line.holdsCode) :=
  rfl

theorem outcome_cons_block (s : σ) (c : Char) (line : LexedLine σ) :
    (line.cons s c .block).outcome = line.outcome := by
  unfold outcome
  rw [holdsCode_cons]
  simp [Region.isProgram, cons]

end LexedLine

namespace Lexer

variable {σ : Type} (x : Lexer σ)

/-- The lines of a text that begins in the state `s`, read character by character. -/
def lines (s : σ) : List Char → List (LexedLine σ)
  | [] => []
  | '\n' :: cs => ⟨s, [], s⟩ :: lines (x.endLine s) cs
  | '\r' :: '\n' :: cs => ⟨s, [], s⟩ :: lines (x.endLine s) cs
  | c :: cs =>
    match lines (x.read s c cs).2 cs with
    | [] => [⟨s, [(c, (x.read s c cs).1)], (x.read s c cs).2⟩]
    | line :: rest => line.cons s c (x.read s c cs).1 :: rest

/-- A line that begins in the state `s`, read by itself. -/
def lexLine (s : σ) : List Char → LexedLine σ
  | [] => ⟨s, [], s⟩
  | c :: cs => (lexLine (x.read s c cs).2 cs).cons s c (x.read s c cs).1

/-- Lines that begin in the state `s`, read one after the other. -/
def lexLines (s : σ) : List (List Char) → List (LexedLine σ)
  | [] => []
  | raw :: raws => x.lexLine s raw :: lexLines (x.endLine (x.lexLine s raw).stop) raws

/-- The lexer does not look beyond the next blank. -/
def IsLocal : Prop :=
  ∀ s c cs d rest, Text.isBlank d = true → x.read s c (cs ++ d :: rest) = x.read s c cs

/-! ### Line by line -/

@[simp]
theorem start_lexLine (s : σ) (cs : List Char) : (x.lexLine s cs).start = s := by
  cases cs <;> rfl

@[simp]
theorem raw_lexLine (s : σ) (cs : List Char) : (x.lexLine s cs).raw = cs := by
  induction cs generalizing s with
  | nil => rfl
  | cons c cs ih =>
    have htail := ih (x.read s c cs).2
    unfold LexedLine.raw at htail ⊢
    rw [lexLine, LexedLine.cons, List.map_cons, htail]

theorem kind_lexLine (s : σ) (cs : List Char) :
    (x.lexLine s cs).kind
      = if (Text.trim cs).isEmpty then .blank
        else if (x.lexLine s cs).holdsCode then .code else .comment := by
  rw [LexedLine.kind, raw_lexLine, Text.isEmpty_trim]

theorem map_raw_lexLines (s : σ) (raws : List (List Char)) :
    (x.lexLines s raws).map (·.raw) = raws := by
  induction raws generalizing s with
  | nil => rfl
  | cons raw raws ih => rw [lexLines, List.map_cons, ih, raw_lexLine]

/-- The state in which a line begins after others. -/
def startAfter (s : σ) (raws : List (List Char)) : σ :=
  raws.foldl (fun s raw => x.endLine (x.lexLine s raw).stop) s

theorem getElem?_lexLines (s : σ) (raws : List (List Char)) (n : Nat) :
    (x.lexLines s raws)[n]? = raws[n]?.map (x.lexLine (x.startAfter s (raws.take n))) := by
  induction raws generalizing s n with
  | nil => rfl
  | cons raw raws ih =>
    cases n with
    | zero => rfl
    | succ n =>
      rw [lexLines, List.getElem?_cons_succ, List.getElem?_cons_succ, ih]
      rfl

theorem take_lexLines (s : σ) (raws : List (List Char)) (n : Nat) :
    (x.lexLines s raws).take n = x.lexLines s (raws.take n) := by
  induction raws generalizing s n with
  | nil => simp [lexLines]
  | cons raw raws ih =>
    cases n with
    | zero => rfl
    | succ n => rw [lexLines, List.take_succ_cons, List.take_succ_cons, lexLines, ih]

/-- **A text that is read character by character is read line by line.** -/
theorem lines_eq_lexLines {x : Lexer σ} (hx : x.IsLocal) (s : σ) (text : List Char) :
    x.lines s text = x.lexLines s (Text.lines text) := by
  fun_induction Text.lines text generalizing s with
  | case1 => rfl
  | case2 cs ih =>
    rw [lines, ih]
    rfl
  | case3 cs ih =>
    rw [lines, ih]
    rfl
  | case4 c cs hfeed hreturn hnil ih =>
    cases Text.eq_nil_of_lines_eq_nil hnil
    rw [lines.eq_4 x s c [] hfeed hreturn]
    rfl
  | case5 c cs hfeed hreturn line rest hlines ih =>
    have hread : x.read s c cs = x.read s c line := by
      rcases Text.eq_append_of_lines_eq_cons hlines with rfl | ⟨d, more, hd, rfl⟩
      · rfl
      · have hblank : Text.isBlank d = true := by rcases hd with rfl | rfl <;> decide
        exact hx s c line d more hblank
    rw [lines.eq_4 x s c cs hfeed hreturn, ih, hlines, hread]
    rfl

/-! ### Blanks around a line -/

variable {x}

/-- What a lexer says of blanks that do not change its state, and of the characters after them. -/
theorem lexLine_lead {s : σ} {region : Region}
    (hs : ∀ c cs, Text.isBlank c = true → x.read s c cs = (region, s)) {lead : List Char}
    (hlead : ∀ c ∈ lead, Text.isBlank c = true) (cs : List Char) :
    x.lexLine s (lead ++ cs)
      = ⟨s, lead.map (·, region) ++ (x.lexLine s cs).marks, (x.lexLine s cs).stop⟩ := by
  induction lead with
  | nil =>
    rw [List.nil_append, List.map_nil, List.nil_append]
    cases cs <;> rfl
  | cons c lead ih =>
    rw [List.forall_mem_cons] at hlead
    rw [List.cons_append, lexLine, hs c _ hlead.1, ih hlead.2]
    rfl

/-- Blanks hold no code. -/
theorem holdsCode_lexLine_lead {s : σ} {region : Region}
    (hs : ∀ c cs, Text.isBlank c = true → x.read s c cs = (region, s)) {lead : List Char}
    (hlead : ∀ c ∈ lead, Text.isBlank c = true) (cs : List Char) :
    (x.lexLine s (lead ++ cs)).holdsCode = (x.lexLine s cs).holdsCode := by
  have hblanks : (lead.map (·, region)).any
      (fun m => !Text.isBlank m.1 && m.2.isProgram) = false := by
    rw [List.any_map, List.any_eq_false]
    intro c hc
    simp [hlead c hc]
  rw [lexLine_lead hs hlead]
  unfold LexedLine.holdsCode
  rw [List.any_append, hblanks, Bool.false_or]

/-- Blanks at the end of a line are read after what stands before them. -/
theorem lexLine_trail (hx : x.IsLocal) (s : σ) (cs : List Char) {trail : List Char}
    (htrail : ∀ c ∈ trail, Text.isBlank c = true) :
    x.lexLine s (cs ++ trail)
      = ⟨s, (x.lexLine s cs).marks ++ (x.lexLine (x.lexLine s cs).stop trail).marks,
          (x.lexLine (x.lexLine s cs).stop trail).stop⟩ := by
  induction cs generalizing s with
  | nil =>
    rw [List.nil_append]
    cases trail <;> rfl
  | cons c cs ih =>
    have hread : x.read s c (cs ++ trail) = x.read s c cs := by
      cases trail with
      | nil => rw [List.append_nil]
      | cons d trail => exact hx s c cs d trail (htrail d List.mem_cons_self)
    rw [List.cons_append, lexLine, hread, ih]
    rfl

theorem holdsCode_lexLine_trail (hx : x.IsLocal) (s : σ) (cs : List Char) {trail : List Char}
    (htrail : ∀ c ∈ trail, Text.isBlank c = true) :
    (x.lexLine s (cs ++ trail)).holdsCode = (x.lexLine s cs).holdsCode := by
  have hblanks : ∀ s', (x.lexLine s' trail).marks.any
      (fun m => !Text.isBlank m.1 && m.2.isProgram) = false := by
    intro s'
    rw [List.any_eq_false]
    intro m hm
    have hmem : m.1 ∈ (x.lexLine s' trail).raw := List.mem_map_of_mem hm
    rw [raw_lexLine] at hmem
    simp [htrail m.1 hmem]
  rw [lexLine_trail hx s cs htrail]
  unfold LexedLine.holdsCode
  rw [List.any_append, hblanks, Bool.or_false]

/-- What no blank changes about the state is the same after blanks. -/
theorem stop_lexLine_blanks {α : Type} {f : σ → α}
    (hf : ∀ s c cs, Text.isBlank c = true → f (x.read s c cs).2 = f s) (s : σ) {blanks : List Char}
    (hblanks : ∀ c ∈ blanks, Text.isBlank c = true) : f (x.lexLine s blanks).stop = f s := by
  induction blanks generalizing s with
  | nil => rfl
  | cons c cs ih =>
    rw [List.forall_mem_cons] at hblanks
    rw [lexLine, LexedLine.cons, ih _ hblanks.2, hf s c cs hblanks.1]

/-- A line may be trimmed before it is read, if blanks do not change the state it begins in. -/
theorem lexLine_trim (hx : x.IsLocal) {α : Type} {f : σ → α}
    (hf : ∀ s c cs, Text.isBlank c = true → f (x.read s c cs).2 = f s) {s : σ} {region : Region}
    (hs : ∀ c cs, Text.isBlank c = true → x.read s c cs = (region, s)) (raw : List Char) :
    (x.lexLine s raw).holdsCode = (x.lexLine s (Text.trim raw)).holdsCode ∧
      f (x.lexLine s raw).stop = f (x.lexLine s (Text.trim raw)).stop := by
  obtain ⟨lead, trail, heq, hlead, htrail⟩ := Text.exists_eq_trim raw
  rw [heq]
  constructor
  · rw [holdsCode_lexLine_lead hs hlead, holdsCode_lexLine_trail hx s _ htrail, ← heq]
  · rw [lexLine_lead hs hlead]
    dsimp only
    rw [lexLine_trail hx s _ htrail]
    dsimp only
    rw [stop_lexLine_blanks hf _ htrail, ← heq]

/-! ### Texts between block marks -/

/-- A lexer that stays in a state until a mark comes goes to the end of the line, or to the first
occurrence of the mark. -/
theorem outcome_lexLine_until {inside left : σ} {mark : List Char} (hmark : mark ≠ [])
    (hstay : ∀ c cs, Text.startsWith (c :: cs) mark = false → x.read inside c cs = (.block, inside))
    (hleave : ∀ rest, (x.lexLine inside (mark ++ rest)).outcome = (x.lexLine left rest).outcome)
    (cs : List Char) :
    (x.lexLine inside cs).outcome
      = (Text.splitFirst mark cs).elim (false, inside) fun split =>
          (x.lexLine left split.2).outcome := by
  induction cs with
  | nil =>
    cases mark with
    | nil => contradiction
    | cons m mark => rfl
  | cons c cs ih =>
    cases hstart : Text.startsWith (c :: cs) mark with
    | true =>
      obtain ⟨rest, hrest⟩ := Text.startsWith_iff.1 hstart
      rw [Text.splitFirst_cons_of_eq_append hrest.symm, ← hrest]
      exact hleave rest
    | false =>
      rw [Text.splitFirst_cons_of_not_startsWith hstart, lexLine, hstay c cs hstart,
        LexedLine.outcome_cons_block, ih]
      cases Text.splitFirst mark cs <;> rfl

end Lexer

end SourceReview
