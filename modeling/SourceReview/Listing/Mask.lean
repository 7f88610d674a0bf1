import SourceReview.Listing.CommentStyle

/-!
# Masked code

The code of a line is its text with every character inside a quotation replaced by a space, with a
space for each block comment that the line closes again, and without what follows the mark of a line
comment or of a block comment that stays open. Keywords and patterns are looked for in the code, so
that they are not found inside quotations or comments.
-/

namespace SourceReview

/-- The code of a line, and the mark that will close the block comment it leaves open, if any. -/
structure Masked where
  code : List Char
  opens : Option (List Char)
  deriving DecidableEq, Repr

/-- `m` with the character `c` in front of its code. -/
def Masked.cons (c : Char) (m : Masked) : Masked := { m with code := c :: m.code }

/-- Where the masking of a line stands. -/
inductive MaskState where
  /-- In code, where the next `skip` characters belong to a comment. -/
  | code (skip : Nat)
  /-- In a quotation, after a backslash or not. -/
  | quotation (mark : Char) (escaped : Bool)
  deriving DecidableEq, Repr

/-- Whether `c` opens and closes quotations. -/
def isQuotationMark (c : Char) : Bool := c == '"' || c == '\x27' || c == '\x60'

/-- The number of characters of the block comment between `mark` that `cs` begins with, if it is
closed in `cs`. -/
def closedLength? (mark : BlockMark) (cs : List Char) : Option Nat :=
  (Text.splitFirst mark.closing (cs.drop mark.opening.length)).map fun (inside, _) =>
    mark.opening.length + inside.length + mark.closing.length

/-- Masks what is left of a line. -/
def maskFrom (style : CommentStyle) : MaskState → List Char → Masked
  | _, [] => ⟨[], none⟩
  | .quotation mark true, _ :: cs => (maskFrom style (.quotation mark false) cs).cons ' '
  | .quotation mark false, c :: cs =>
    if c = '\\' then (maskFrom style (.quotation mark true) cs).cons ' '
    else if c = mark then (maskFrom style (.code 0) cs).cons c
    else (maskFrom style (.quotation mark false) cs).cons ' '
  | .code (skip + 1), _ :: cs => maskFrom style (.code skip) cs
  | .code 0, c :: cs =>
    if isQuotationMark c then (maskFrom style (.quotation c false) cs).cons c
    else if style.beginsLineComment (c :: cs) then ⟨[], none⟩
    else
      match style.inlineBlockAt? (c :: cs) with
      | none => (maskFrom style (.code 0) cs).cons c
      | some mark =>
        match closedLength? mark (c :: cs) with
        | some length => (maskFrom style (.code (length - 1)) cs).cons ' '
        | none => ⟨[], some mark.closing⟩

/-- Masks a line. -/
def mask (style : CommentStyle) (line : List Char) : Masked := maskFrom style (.code 0) line

end SourceReview
