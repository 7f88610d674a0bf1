import SourceReview.Listing.Block
import SourceReview.Outline.Basic
import SourceReview.Outline.Parameters
import SourceReview.Score.Rates

/-!
# Go outlines

Functions and types are declared at the margin and extend to the brace that closes their body. A
method names the type it belongs to, its receiver, and may stand anywhere; so methods are counted by
receiver. Names with a capital are exported. Imports are single or come in a parenthesized block;
their paths are quotations, so they are read from the raw line.
-/

namespace SourceReview.Go

open Pattern

/-- Type parameters in square brackets, or none. -/
def typeParameters : Pattern := opt (lit "[" ++ many (except "]") ++ lit "]")

/-- The head of a function or method. -/
def functionHead : Pattern :=
  atStart ++ lit "func" ++ gap ++
    opt (lit "(" ++ blanks ++ many word ++ blanks ++ opt (lit "*") ++ part .receiver name ++
      typeParameters ++ blanks ++ lit ")" ++ blanks) ++
    part .name name ++ blanks ++ among "(["

/-- The head of a type with members. -/
def typeHead : Pattern :=
  atStart ++ lit "type" ++ gap ++ part .name name ++ typeParameters ++ gap ++
    words ["struct", "interface"] ++ boundary

/-- The head of any type. -/
def anyTypeHead : Pattern := atStart ++ lit "type" ++ gap ++ part .name name

/-- The path of an import, after an alias or without one. -/
def importPath : Pattern :=
  opt (many1 (char fun c => Text.isWord c || c == '.') ++ gap) ++ lit "\"" ++
    part .module (many1 (except "\"")) ++ lit "\""

/-- An import that stands alone. -/
def singleImport : Pattern := atStart ++ lit "import" ++ gap ++ importPath

/-- A line of an import block. -/
def blockImport : Pattern := atStart ++ blanks ++ importPath

/-- The complexity of a source text. -/
def complexity (text : List Char) : UInt32 := Score.complexity .slashes weights text

/-- Whether a name begins with a capital. -/
def isExported (name : List Char) : Bool := name.head?.any Char.isUpper

/-- What a line contributes: an outline, and the receiver of the method it declares. -/
structure Contribution where
  outline : Outline := {}
  receiver : Option String := none

/-- What a line outside of imports contributes, where `line` is the first of `lines`. -/
def declaration (line : SourceLine) (lines : List SourceLine) : Contribution :=
  match functionHead.find? line.code with
  | some m =>
    let name := (m.partText? .name line.code).getD []
    let receiver := (m.partText? .receiver line.code).map String.ofList
    let span := braceSpan lines
    -- The parameters follow the receiver.
    let signature := line.code.drop (((m.part? .name).map (·.start)).getD 0)
    { receiver
      outline :=
        { functions :=
            [{ name := String.ofList name
               line := line.number
               endLine := line.number + span
               parameters := Parameters.count [] signature
               complexity := complexity (blockText span lines)
               isAsync := false }]
          exports := if isExported name && receiver.isNone then [String.ofList name] else [] } }
  | none =>
    match typeHead.find? line.code with
    | some m =>
      let name := (m.partText? .name line.code).getD []
      { outline :=
          { classes := [⟨String.ofList name, line.number, line.number + braceSpan lines, 0⟩]
            exports := if isExported name then [String.ofList name] else [] } }
    | none => {}

/-- The import that a raw line names, by one of the two patterns of imports. -/
def importOutline (pattern : Pattern) (line : SourceLine) : Contribution :=
  match pattern.find? line.raw with
  | some m => { outline := { imports := [String.ofList ((m.partText? .module line.raw).getD [])] } }
  | none => {}

/-- What each line of code contributes. `inImports` tells whether an import block is open. -/
def contributions (inImports : Bool) : List SourceLine → List Contribution
  | [] => []
  | line :: lines =>
    if !line.isCode then contributions inImports lines
    else if inImports then
      if (Text.trimStart line.code).head? == some ')' then contributions false lines
      else importOutline blockImport line :: contributions true lines
    else if Text.startsWith line.code "import".toList then
      if (Text.trimEnd line.code).getLast? == some '(' then contributions true lines
      else importOutline singleImport line :: contributions false lines
    else declaration line (line :: lines) :: contributions false lines

/-- The outline of a source text. -/
def outline (text : List Char) : Outline :=
  let parts := contributions false (listing .slashes text)
  let whole := Outline.concat (parts.map (·.outline))
  let receivers := parts.filterMap (·.receiver)
  { whole with
    classes := whole.classes.map fun c => { c with methodCount := receivers.count c.name } }

end SourceReview.Go
