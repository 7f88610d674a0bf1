import SourceReview.Listing.Block
import SourceReview.Outline.Basic
import SourceReview.Outline.Parameters
import SourceReview.Score.Rates

/-!
# Python outlines

Functions and classes extend over the lines that are indented deeper than their own. Names at the
margin that do not begin with an underscore are exported.
-/

namespace SourceReview.Python

open Pattern

/-- The head of a function. -/
def functionHead : Pattern :=
  atStart ++ blanks ++ opt (part .asyncMark (lit "async" ++ gap)) ++ lit "def" ++ gap ++
    part .name plainName ++ blanks ++ lit "("

/-- The head of a class. -/
def classHead : Pattern := atStart ++ blanks ++ lit "class" ++ gap ++ part .name plainName

/-- The import of a list of modules. -/
def importList : Pattern :=
  atStart ++ blanks ++ lit "import" ++ gap ++ part .names (many1 any) ++ atEnd

/-- The import of names from a module, which may be given relative to the package. -/
def importFrom : Pattern :=
  atStart ++ blanks ++ lit "from" ++ gap ++
    part .module
      (many (lit ".") ++ nameStart ++ many (char fun c => c.isAlphanum || c == '_' || c == '.') <|>
        many1 (lit ".")) ++
    gap ++ lit "import" ++ boundary

/-- The complexity of a source text. -/
def complexity (text : List Char) : UInt32 := Score.complexity .hashes weights text

/-- The name if it is exported by a declaration with a given indentation. -/
def exported (indent : Nat) (name : String) : List String :=
  if indent = 0 && name.toList.head? != some '_' then [name] else []

/-- The number of lines that a signature may extend over. -/
def signatureLines : Nat := 6

/-- The function whose head is the match `m` in the first of `lines`. -/
def functionOutline (m : Match) (line : SourceLine) (lines : List SourceLine) : Outline :=
  let name := String.ofList ((m.partText? .name line.code).getD [])
  let span := indentSpan lines
  let signature := blockText (min (signatureLines - 1) span) lines
  { functions :=
      [{ name
         line := line.number
         endLine := line.number + span
         parameters := Parameters.count ["self".toList, "cls".toList] signature
         complexity := complexity (blockText span lines)
         isAsync := (m.part? .asyncMark).isSome }]
    exports := exported line.indent name }

/-- The class whose head is the match `m` in the first of `lines`. -/
def classOutline (m : Match) (line : SourceLine) (lines : List SourceLine) : Outline :=
  let name := String.ofList ((m.partText? .name line.code).getD [])
  { classes := [⟨name, line.number, line.number + indentSpan lines, 0⟩]
    exports := exported line.indent name }

/-- The modules of an import list: the first word of each item, without the name it is given. -/
def importedModules (names : List Char) : List String :=
  (Text.splitBy (· == ',') names).filterMap fun item =>
    let word := (Text.trimStart item).takeWhile (!Text.isBlank ·)
    if word.isEmpty then none else some (String.ofList word)

/-- What the first of `lines` contributes to the outline. -/
def lineOutline (line : SourceLine) (lines : List SourceLine) : Outline :=
  match functionHead.find? line.code with
  | some m => functionOutline m line lines
  | none =>
    match classHead.find? line.code with
    | some m => classOutline m line lines
    | none =>
      match importFrom.find? line.code with
      | some m => { imports := [String.ofList ((m.partText? .module line.code).getD [])] }
      | none =>
        match importList.find? line.code with
        | some m => { imports := importedModules ((m.partText? .names line.code).getD []) }
        | none => {}

/-- The outline of a source text. -/
def outline (text : List Char) : Outline :=
  (Outline.concat (eachCode lineOutline (listing .hashes text))).withMethodCounts

end SourceReview.Python
