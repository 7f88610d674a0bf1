import SourceReview.Listing.Mask
import SourceReview.Text.Blank
import SourceReview.Text.Lines
import SourceReview.Total

/-!
# Source listings

A listing is a source text line by line: each line with its number, its raw text, its masked code,
and whether it is code, a comment or blank.
-/

namespace SourceReview

/-- What a line holds. -/
inductive LineKind where
  | code
  | comment
  | blank
  deriving DecidableEq, Repr

/-- One line of a source text. -/
structure SourceLine where
  /-- The number of the line, counted from one. -/
  number : Nat
  raw : List Char
  /-- The raw text with quotations blanked and comments removed. -/
  code : List Char
  kind : LineKind
  deriving DecidableEq, Repr

/-- The width of the blanks that a line begins with, where a tab is four columns wide. -/
def indentation (line : List Char) : Nat :=
  total ((line.takeWhile Text.isBlank).map fun c => if c = '\t' then 4 else 1)

namespace SourceLine

/-- Whether the line holds code. -/
def isCode (l : SourceLine) : Bool := l.kind == .code

/-- Whether the line holds nothing but blanks. -/
def isBlank (l : SourceLine) : Bool := l.kind == .blank

/-- Whether the line is a comment. -/
def isComment (l : SourceLine) : Bool := l.kind == .comment

/-- The width of the blanks that the line begins with. -/
def indent (l : SourceLine) : Nat := indentation l.raw

end SourceLine

/-- A line as read: its kind, its code, and the mark that closes the block comment it leaves open. -/
structure Reading where
  kind : LineKind
  code : List Char
  opens : Option (List Char)
  deriving DecidableEq, Repr

/-- Reads a line that begins outside of comments. -/
def readOutside (style : CommentStyle) (raw : List Char) : Reading :=
  let trimmed := Text.trim raw
  if trimmed.isEmpty then ⟨.blank, [], none⟩
  else if style.beginsLineComment trimmed then ⟨.comment, [], none⟩
  else
    match style.blockAt? trimmed with
    | some mark =>
      match Text.splitFirst mark.closing (trimmed.drop mark.opening.length) with
      | some (_, rest) =>
        -- What follows the closed comment is code.
        let masked := mask style (Text.trim rest)
        let kind := if (Text.trim masked.code).isEmpty then .comment else .code
        ⟨kind, masked.code, masked.opens⟩
      | none => ⟨.comment, [], some mark.closing⟩
    | none =>
      let masked := mask style raw
      ⟨.code, masked.code, masked.opens⟩

/-- Reads a line that begins inside a block comment. The comment ends with the line that holds its
closing mark. -/
def readInside (closing : List Char) (raw : List Char) : Reading :=
  let trimmed := Text.trim raw
  ⟨if trimmed.isEmpty then .blank else .comment, [],
    if Text.occursIn closing trimmed then none else some closing⟩

/-- Reads a line, given the mark that closes the block comment it begins in. -/
def readLine (style : CommentStyle) (opens : Option (List Char)) (raw : List Char) : Reading :=
  match opens with
  | some closing => readInside closing raw
  | none => readOutside style raw

/-- The listing of raw lines that are numbered from `number` on. -/
def listLines (style : CommentStyle) (number : Nat) (opens : Option (List Char)) :
    List (List Char) → List SourceLine
  | [] => []
  | raw :: raws =>
    let reading := readLine style opens raw
    ⟨number, raw, reading.code, reading.kind⟩ :: listLines style (number + 1) reading.opens raws

/-- The listing of a source text. -/
def listing (style : CommentStyle) (text : List Char) : List SourceLine :=
  listLines style 1 none (Text.lines text)

/-- The lines of code in a listing. -/
def codeLines (lines : List SourceLine) : List SourceLine := lines.filter (·.isCode)

end SourceReview
