import SourceReview.Json.Parser
import SourceReview.Yaml.Character

/-!
# YAML scalars

The texts of plain, quoted and block scalars. A line break between two words is folded into a space,
and of several line breaks the first is dropped.
-/

namespace SourceReview.Yaml

/-- A run of spaces and line breaks between two words. -/
structure Pause where
  /-- The spaces, the latest first, unless a line break follows them. -/
  spaces : List Char := []
  /-- The line breaks, the latest first. -/
  breaks : List Char := []
  /-- Whether the run begins with a line break that is escaped. -/
  escaped : Bool := false

namespace Pause

/-- Whether the run is empty. -/
def isNone (p : Pause) : Bool := p.spaces.isEmpty && p.breaks.isEmpty && !p.escaped

/-- Whether the run has come to another line. -/
def isMultiline (p : Pause) : Bool := p.escaped || !p.breaks.isEmpty

/-- The run with one more space. Spaces after a line break do not count. -/
def space (p : Pause) (c : Char) : Pause :=
  if p.isMultiline then p else { p with spaces := c :: p.spaces }

/-- The run with one more line break. -/
def lineBreak (p : Pause) (c : Char) : Pause := { p with spaces := [], breaks := c :: p.breaks }

/-- What the run stands for. -/
def text (p : Pause) : List Char :=
  if p.escaped then p.breaks.reverse
  else
    match p.breaks.reverse with
    | [] => p.spaces.reverse
    | ['\n'] => [' ']
    | '\n' :: more => more
    | all => all

end Pause

/-- A scalar that has been read: its text, whether it has come to another line, and where it
ends. -/
structure ScalarRun where
  text : List Char
  multiline : Bool
  cursor : Cursor

/-! ### Plain scalars -/

/-- Whether a plain scalar ends before the character `c` that follows a pause. -/
def endsAfterPause (inFlow : Bool) (indent : Int) (place : Place) (c : Char) (cs : List Char) :
    Bool :=
  (!inFlow && (place.column : Int) < indent) || (place.column == 0 && isDocumentMark (c :: cs)) ||
    c == '#'

/-- Reads on in a plain scalar. `done` holds the text so far, the latest character first, and
`indent` is the least column of its lines. -/
def plainFrom (inFlow : Bool) (indent : Int) (done : List Char) (pause : Pause) (place : Place) :
    List Char → Option ScalarRun
  | [] => some ⟨done.reverse, pause.isMultiline, ⟨place, []⟩⟩
  | c :: cs =>
    let stop : Option ScalarRun := some ⟨done.reverse, pause.isMultiline, ⟨place, c :: cs⟩⟩
    if isSpace c then
      if c == '\t' && pause.isMultiline && (place.column : Int) < indent then none
      else plainFrom inFlow indent done (pause.space c) (place.next c) cs
    else if isBreak c then plainFrom inFlow indent done (pause.lineBreak c) (place.next c) cs
    else if !pause.isNone && endsAfterPause inFlow indent place c cs then stop
    else if inFlow && c == ':' && cs.head?.any (isOneOf ",?[]\x7b\x7d") then none
    else if (c == ':' && isGap cs) || (inFlow && isOneOf ",[]\x7b\x7d" c) then stop
    else plainFrom inFlow indent (c :: (pause.text.reverse ++ done)) {} (place.next c) cs

/-! ### Quoted scalars -/

/-- Reads on in a scalar between single quotes, where two of them stand for one. -/
def singleQuotedFrom (done : List Char) (pause : Pause) (place : Place) :
    List Char → Option ScalarRun
  | [] => none
  | c :: cs =>
    if place.column == 0 && isDocumentMark (c :: cs) then none
    else if isSpace c then singleQuotedFrom done (pause.space c) (place.next c) cs
    else if isBreak c then singleQuotedFrom done (pause.lineBreak c) (place.next c) cs
    else
      let done := pause.text.reverse ++ done
      if c == '\x27' then
        match cs with
        | '\x27' :: cs => singleQuotedFrom (c :: done) {} ((place.next c).next c) cs
        | cs => some ⟨done.reverse, false, ⟨place.next c, cs⟩⟩
      else singleQuotedFrom (c :: done) {} (place.next c) cs

/-- The character that an escape of one character stands for. -/
def escaped? (c : Char) : Option Char :=
  match c with
  | '0' => some '\x00'
  | 'a' => some '\x07'
  | 'b' => some '\x08'
  | 't' => some '\t'
  | '\t' => some '\t'
  | 'n' => some '\n'
  | 'v' => some '\x0b'
  | 'f' => some '\x0c'
  | 'r' => some '\r'
  | 'e' => some '\x1b'
  | ' ' => some ' '
  | '"' => some '"'
  | '/' => some '/'
  | '\\' => some '\\'
  | 'N' => some '\u0085'
  | '_' => some '\u00a0'
  | 'L' => some '\u2028'
  | 'P' => some '\u2029'
  | _ => none

/-- The number of digits of an escape that gives a code point. -/
def escapeDigits? (c : Char) : Option Nat :=
  match c with
  | 'x' => some 2
  | 'u' => some 4
  | 'U' => some 8
  | _ => none

/-- Where reading stands in a scalar between double quotes. -/
inductive QuoteMode where
  | text
  /-- After a backslash. -/
  | escape
  /-- In an escape that has `left + 1` digits to go and the value `value` so far. -/
  | digits (left value : Nat)

/-- Reads on in a scalar between double quotes. -/
def doubleQuotedFrom (mode : QuoteMode) (done : List Char) (pause : Pause) (place : Place) :
    List Char → Option ScalarRun
  | [] => none
  | c :: cs =>
    let place' := place.next c
    match mode with
    | .digits left value =>
      match Json.hexValue? c with
      | none => none
      | some d =>
        let value := value * 16 + d
        match left with
        | left + 1 => doubleQuotedFrom (.digits left value) done {} place' cs
        | 0 =>
          if value.isValidChar then doubleQuotedFrom .text (Char.ofNat value :: done) {} place' cs
          else none
    | .escape =>
      if isBreak c then doubleQuotedFrom .text done { escaped := true } place' cs
      else
        match escapeDigits? c with
        | some n => doubleQuotedFrom (.digits (n - 1) 0) done {} place' cs
        | none =>
          match escaped? c with
          | some d => doubleQuotedFrom .text (d :: done) {} place' cs
          | none => none
    | .text =>
      if place.column == 0 && isDocumentMark (c :: cs) then none
      else if isSpace c then doubleQuotedFrom .text done (pause.space c) place' cs
      else if isBreak c then doubleQuotedFrom .text done (pause.lineBreak c) place' cs
      else
        let done := pause.text.reverse ++ done
        if c == '"' then some ⟨done.reverse, false, ⟨place', cs⟩⟩
        else if c == '\\' then doubleQuotedFrom .escape done {} place' cs
        else doubleQuotedFrom .text (c :: done) {} place' cs

/-! ### Block scalars -/

/-- What becomes of the line breaks at the end of a block scalar. -/
inductive Chomping where
  | strip
  | clip
  | keep
  deriving DecidableEq, Repr

/-- The header of a block scalar: what becomes of its last line breaks, and by how much it is
indented, where that is given. -/
structure BlockHeader where
  chomping : Chomping := .clip
  increment : Nat := 0

/-- The header with one more indicator. -/
def BlockHeader.read? (h : BlockHeader) (c : Char) : Option BlockHeader :=
  if c == '+' && h.chomping == .clip then some { h with chomping := .keep }
  else if c == '-' && h.chomping == .clip then some { h with chomping := .strip }
  else if c.isDigit && c != '0' && h.increment == 0 then
    some { h with increment := c.toNat - '0'.toNat }
  else none

/-- The header at the beginning of a text, and what follows it. -/
def headerAt : List Char → BlockHeader × List Char
  | a :: b :: cs =>
    match BlockHeader.read? {} a with
    | some h =>
      match h.read? b with
      | some h => (h, cs)
      | none => (h, b :: cs)
    | none => ({}, a :: b :: cs)
  | [a] =>
    match BlockHeader.read? {} a with
    | some h => (h, [])
    | none => ({}, [a])
  | [] => ({}, [])

/-- A block scalar that is being read. -/
structure BlockDraft where
  /-- The text so far, the latest character first. -/
  done : List Char := []
  /-- The indentation of its lines, or zero if it is not known yet. -/
  indent : Nat
  /-- The greatest indentation so far. -/
  widest : Nat := 0
  /-- The line break after the latest line. -/
  leadingBreak : List Char := []
  /-- The line breaks after that, the latest first. -/
  trailingBreaks : List Char := []
  /-- Whether the latest line begins with a space. -/
  leadingSpace : Bool := false

/-- The draft at the beginning of a line that begins with `c`. In a folded scalar the break between
two lines that are not indented further becomes a space. -/
def BlockDraft.beginLine (folded : Bool) (d : BlockDraft) (c : Char) : BlockDraft :=
  let joint :=
    if folded && d.leadingBreak == ['\n'] && !d.leadingSpace && !isSpace c then
      if d.trailingBreaks.isEmpty then [' '] else d.trailingBreaks
    else d.trailingBreaks ++ d.leadingBreak
  { d with
    done := joint ++ d.done
    leadingBreak := []
    trailingBreaks := []
    leadingSpace := isSpace c }

/-- The text of a finished draft. -/
def BlockDraft.text (chomping : Chomping) (d : BlockDraft) : List Char :=
  let done := if chomping == .strip then d.done else d.leadingBreak ++ d.done
  (if chomping == .keep then d.trailingBreaks ++ done else done).reverse

/-- Reads on in a block scalar. `inLine` tells whether a line has begun, and `least` is the least
indentation that its lines may have. -/
def blockFrom (folded : Bool) (chomping : Chomping) (least : Nat) (inLine : Bool) (d : BlockDraft)
    (place : Place) : List Char → Option ScalarRun
  | [] => some ⟨d.text chomping, true, ⟨place, []⟩⟩
  | c :: cs =>
    if inLine then
      if isBreak c then
        blockFrom folded chomping least false { d with leadingBreak := [c] } (place.next c) cs
      else
        blockFrom folded chomping least true { d with done := c :: d.done } (place.next c) cs
    else
      let inIndent := d.indent == 0 || place.column < d.indent
      let widest := if c == ' ' && inIndent then d.widest else max d.widest place.column
      let d := { d with widest }
      if c == ' ' && inIndent then blockFrom folded chomping least false d (place.next c) cs
      else if c == '\t' && inIndent then none
      else if isBreak c then
        blockFrom folded chomping least false { d with trailingBreaks := c :: d.trailingBreaks }
          (place.next c) cs
      else
        let d := { d with indent := if d.indent == 0 then max d.widest least else d.indent }
        if place.column == d.indent then
          let d := d.beginLine folded c
          blockFrom folded chomping least true { d with done := c :: d.done } (place.next c) cs
        else some ⟨d.text chomping, true, ⟨place, c :: cs⟩⟩

end SourceReview.Yaml
