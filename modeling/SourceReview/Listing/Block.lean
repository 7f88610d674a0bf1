import SourceReview.Listing.Basic

/-!
# Blocks

A declaration extends over a block of lines: up to the brace that closes its body, or as far as the
lines are indented deeper than its own. The block of a line is given by the number of lines that
belong to it after the line itself.
-/

namespace SourceReview

/-- The change of the brace depth over a text. Depths are integers without bounds. Counted in 32
bits they are the same in every text with fewer than 2^31 braces. -/
def braceBalance : List Char → Int
  | [] => 0
  | c :: cs => (if c = '{' then 1 else if c = '}' then -1 else 0) + braceBalance cs

/-- The lines before which a block has to open if a line has not ended the declaration. -/
def openingReach : Nat := 8

/-- The last line of a brace block relative to its first, where `lines` are left and `passed` lines
have been read. `depth` is the depth of open braces, without bounds as in `braceBalance`, and
`opened` tells whether a brace has been opened at all. -/
def braceSpanFrom (passed : Nat) (depth : Int) (opened : Bool) : List SourceLine → Nat
  | [] => passed - 1
  | line :: lines =>
    let depth := depth + braceBalance line.code
    let opened := opened || line.code.contains '{'
    if opened then
      if depth ≤ 0 then passed else braceSpanFrom (passed + 1) depth opened lines
    else if (Text.trimEnd line.code).getLast? == some ';' then passed
    else if openingReach ≤ passed then 0
    else braceSpanFrom (passed + 1) depth opened lines

/-- The number of lines after the first that belong to the brace block beginning with the first of
`lines`. A declaration that ends in a semicolon before any brace is its own block, and so is a line
after which no brace comes soon. -/
def braceSpan (lines : List SourceLine) : Nat := braceSpanFrom 0 0 false lines

/-- The position, counted from `passed`, of the last line that is indented deeper than `base`, with
no other line than blank ones before it. `last` is the position of the latest such line. -/
def indentSpanFrom (base last passed : Nat) : List SourceLine → Nat
  | [] => last
  | line :: lines =>
    if line.isBlank then indentSpanFrom base last (passed + 1) lines
    else if line.indent ≤ base then last
    else indentSpanFrom base passed (passed + 1) lines

/-- The number of lines after the first that belong to the indented block beginning with the first
of `lines`. Blank lines inside the block do not end it. -/
def indentSpan : List SourceLine → Nat
  | [] => 0
  | head :: lines => indentSpanFrom head.indent 0 1 lines

/-- The raw text of the first line and the `span` lines after it. -/
def blockText (span : Nat) (lines : List SourceLine) : List Char :=
  Text.joinLines ((lines.take (span + 1)).map (·.raw))

/-- What `f` makes of each line of code, given together with the lines from it on. -/
def eachCode (f : SourceLine → List SourceLine → α) : List SourceLine → List α
  | [] => []
  | line :: lines =>
    if line.isCode then f line (line :: lines) :: eachCode f lines else eachCode f lines

end SourceReview
