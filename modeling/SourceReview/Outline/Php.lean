import SourceReview.Listing.Block
import SourceReview.Outline.Basic
import SourceReview.Outline.Parameters
import SourceReview.Score.Rates

/-!
# PHP outlines

Types and functions extend to the brace that closes their body. Types are exported, and so are
functions at the margin and public methods. Included files are named in quotations, so they are
read from the raw line.
-/

namespace SourceReview.Php

open Pattern

/-- The head of a function or method. -/
def functionHead : Pattern :=
  atStart ++ blanks ++
    part .modifiers
      (many (words ["public", "private", "protected", "static", "final", "abstract"] ++ gap)) ++
    lit "function" ++ gap ++ opt (lit "&") ++ part .name name ++ blanks ++ lit "("

/-- The head of a class or another type. -/
def classHead : Pattern :=
  atStart ++ blanks ++ many (words ["abstract", "final", "readonly"] ++ gap) ++
    words ["class", "interface", "trait", "enum"] ++ gap ++ part .name name

/-- The import of a name of another namespace, or of a trait. -/
def useClause : Pattern :=
  atStart ++ blanks ++ lit "use" ++ gap ++
    part .module (many1 (char fun c => c == '\\' || Text.isWord c)) ++
    opt (gap ++ lit "as" ++ gap ++ many1 word) ++ blanks ++ lit ";"

/-- The inclusion of a file. -/
def inclusion : Pattern :=
  boundary ++ words ["require", "include"] ++ opt (lit "_once") ++ blanks ++ opt (lit "(") ++
    blanks ++ quotedPart .module

/-- The complexity of a source text. -/
def complexity (text : List Char) : UInt32 := Score.complexity .slashesAndHashes weights text

/-- The number of lines that a signature may extend over. -/
def signatureLines : Nat := 4

/-- What the first of `lines` contributes to the outline. -/
def lineOutline (line : SourceLine) (lines : List SourceLine) : Outline :=
  match classHead.find? line.code with
  | some m =>
    let name := String.ofList ((m.partText? .name line.code).getD [])
    { classes := [⟨name, line.number, line.number + braceSpan lines, 0⟩]
      exports := [name] }
  | none =>
    match functionHead.find? line.code with
    | some m =>
      let name := String.ofList ((m.partText? .name line.code).getD [])
      let modifiers := (m.partText? .modifiers line.code).getD []
      let span := braceSpan lines
      let signature := blockText (min (signatureLines - 1) span) lines
      { functions :=
          [{ name
             line := line.number
             endLine := line.number + span
             parameters := Parameters.count [] signature
             complexity := complexity (blockText span lines)
             isAsync := false }]
        exports :=
          if line.indent = 0 || Text.occursIn "public".toList modifiers then [name] else [] }
    | none =>
      match useClause.find? line.code with
      | some m => { imports := [String.ofList ((m.partText? .module line.code).getD [])] }
      | none =>
        match inclusion.find? line.raw with
        | some m => { imports := [String.ofList ((m.partText? .module line.raw).getD [])] }
        | none => {}

/-- The outline of a source text. -/
def outline (text : List Char) : Outline :=
  (Outline.concat (eachCode lineOutline (listing .slashesAndHashes text))).withMethodCounts

end SourceReview.Php
