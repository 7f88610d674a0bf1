import SourceReview.Listing.Block
import SourceReview.Outline.Basic
import SourceReview.Outline.Parameters
import SourceReview.Score.Rates

/-!
# Java outlines

Types and methods extend to the brace that closes their body. A line declares a method if it has
modifiers or a return type before a name and a parenthesis, and nothing in it is a keyword that
calls or branches. Public names are exported.
-/

namespace SourceReview.Java

open Pattern

/-- The head of a type. -/
def typeHead : Pattern :=
  atStart ++ blanks ++
    part .modifiers
      (many (words ["public", "private", "protected", "abstract", "final", "static", "sealed",
        "non-sealed", "strictfp"] ++ gap)) ++
    words ["class", "interface", "enum", "record"] ++ gap ++ part .name name

/-- The head of a method: modifiers, type parameters, a return type, a name and a parenthesis. -/
def methodPattern : Pattern :=
  atStart ++ blanks ++
    part .modifiers
      (many (words ["public", "private", "protected", "static", "final", "abstract",
        "synchronized", "native", "default"] ++ gap)) ++
    opt (lit "<" ++ many1 (except ">") ++ lit ">" ++ blanks) ++
    opt (part .returnType
      (many1 (char fun c => Text.isWord c || c == '.') ++
        opt (lit "<" ++ many (except "()") ++ lit ">") ++ many (lit "[]") ++ gap)) ++
    part .name name ++ blanks ++ lit "("

/-- The import of a type, of a static member or of a package. -/
def importPattern : Pattern :=
  atStart ++ blanks ++ lit "import" ++ gap ++ opt (lit "static" ++ gap) ++
    part .module (many1Lazy (char fun c => Text.isWord c || c == '.')) ++ opt (lit ".*") ++
    blanks ++ lit ";"

/-- Words that can stand before a parenthesis, or before a name and a parenthesis, without
declaring a method. -/
def keywords : List (List Char) :=
  ["if", "for", "while", "switch", "catch", "return", "new", "else", "throw", "case", "try", "do",
    "synchronized", "super", "this"].map String.toList

/-- A method declared in a line. -/
structure MethodHead where
  name : List Char
  isPublic : Bool

/-- The method that a line of code declares. -/
def methodHead? (code : List Char) : Option MethodHead :=
  match methodPattern.find? code with
  | none => none
  | some m =>
    let modifiers := (m.partText? .modifiers code).getD []
    let returnType := (m.partText? .returnType code).map Text.trim
    let name := (m.partText? .name code).getD []
    if modifiers.isEmpty && returnType.isNone then none
    else if keywords.contains name || returnType.any keywords.contains then none
    else if (m.span.of code).contains '=' then none
    else some ⟨name, Text.occursIn "public".toList modifiers⟩

/-- The complexity of a source text. -/
def complexity (text : List Char) : UInt32 := Score.complexity .slashes weights text

/-- The number of lines that a signature may extend over. -/
def signatureLines : Nat := 4

/-- What the first of `lines` contributes to the outline. -/
def lineOutline (line : SourceLine) (lines : List SourceLine) : Outline :=
  match importPattern.find? line.code with
  | some m => { imports := [String.ofList ((m.partText? .module line.code).getD [])] }
  | none =>
    match typeHead.find? line.code with
    | some m =>
      let name := String.ofList ((m.partText? .name line.code).getD [])
      let modifiers := (m.partText? .modifiers line.code).getD []
      { classes := [⟨name, line.number, line.number + braceSpan lines, 0⟩]
        exports := if Text.occursIn "public".toList modifiers then [name] else [] }
    | none =>
      match methodHead? line.code with
      | some head =>
        let name := String.ofList head.name
        let span := braceSpan lines
        let signature := blockText (min (signatureLines - 1) span) lines
        { functions :=
            [{ name
               line := line.number
               endLine := line.number + span
               parameters := Parameters.count [] signature
               complexity := complexity (blockText span lines)
               isAsync := false }]
          exports := if head.isPublic then [name] else [] }
      | none => {}

/-- The outline of a source text. -/
def outline (text : List Char) : Outline :=
  (Outline.concat (eachCode lineOutline (listing .slashes text))).withMethodCounts

end SourceReview.Java
