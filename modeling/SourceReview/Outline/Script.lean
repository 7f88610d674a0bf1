import SourceReview.Listing.Block
import SourceReview.Outline.Basic
import SourceReview.Outline.Parameters
import SourceReview.Score.Rates

/-!
# JavaScript and TypeScript outlines

Functions are declared by the keyword, as arrow functions bound to a name, or as methods. A line
declares a method if it stands directly in the innermost class body around it and opens a block;
deeper lines of that shape are calls that take a function. Modules are named in quotations, so
imports are read from the raw line.
-/

namespace SourceReview.Script

open Pattern

/-- A name, which may hold dollar signs. -/
def identifier : Pattern :=
  char (fun c => c.isAlpha || c == '_' || c == '$') ++
    many (char fun c => Text.isWord c || c == '$')

/-- The head of a function declared by the keyword. -/
def functionHead : Pattern :=
  atStart ++ blanks ++ opt (lit "export" ++ gap) ++ opt (lit "default" ++ gap) ++
    opt (part .asyncMark (lit "async" ++ gap)) ++ lit "function" ++ blanks ++ opt (lit "*") ++
    blanks ++ part .name identifier ++ blanks ++ among "(<"

/-- A type after a colon, or none. -/
def typeNote : Pattern := opt (lit ":" ++ many1 (except "="))

/-- The head of an arrow function bound to a name. -/
def arrowHead : Pattern :=
  atStart ++ blanks ++ opt (lit "export" ++ gap) ++ words ["const", "let", "var"] ++ gap ++
    part .name identifier ++ blanks ++ typeNote ++ lit "=" ++ blanks ++
    opt (part .asyncMark (lit "async" ++ gap)) ++
    (lit "(" ++ many (except ")") ++ lit ")" <|> identifier) ++ blanks ++ typeNote ++ lit "=>"

/-- The head of a method, in a line without semicolon after the parenthesis. -/
def methodHead : Pattern :=
  atStart ++ blanks ++
    many (words ["public", "private", "protected", "static", "readonly", "override", "abstract",
      "get", "set"] ++ gap) ++
    opt (part .asyncMark (lit "async" ++ gap)) ++ opt (lit "*") ++
    part .name (char (fun c => c.isAlpha || c == '_' || c == '$' || c == '#') ++
      many (char fun c => Text.isWord c || c == '$')) ++
    blanks ++ opt (lit "<" ++ many (except ">") ++ lit ">") ++ blanks ++ lit "(" ++
    many (except ";") ++ atEnd

/-- The head of a class. -/
def classHead : Pattern :=
  atStart ++ blanks ++ opt (lit "export" ++ gap) ++ opt (lit "default" ++ gap) ++
    opt (lit "abstract" ++ gap) ++ lit "class" ++ gap ++ part .name identifier

/-- The module that names are imported from. -/
def importFrom : Pattern := boundary ++ lit "from" ++ gap ++ quotedPart .module

/-- The module of an import without names. -/
def importBare : Pattern := atStart ++ blanks ++ lit "import" ++ gap ++ quotedPart .module

/-- The module that a call requires. -/
def requireCall : Pattern :=
  boundary ++ lit "require(" ++ blanks ++ quotedPart .module ++ blanks ++ lit ")"

/-- The export of a declaration. -/
def exportDeclaration : Pattern :=
  atStart ++ blanks ++ lit "export" ++ gap ++ opt (lit "default" ++ gap) ++
    opt (lit "async" ++ gap) ++ opt (lit "abstract" ++ gap) ++
    (lit "function" ++ opt (lit "*") <|>
      words ["class", "const", "let", "var", "interface", "type", "enum"]) ++
    gap ++ part .name identifier

/-- The export of the main value. -/
def exportDefault : Pattern :=
  atStart ++ blanks ++ lit "export" ++ gap ++ lit "default" ++ boundary

/-- The export of a list of names. -/
def exportList : Pattern :=
  atStart ++ blanks ++ lit "export" ++ blanks ++ lit "\x7b" ++ part .names (many (except "\x7d")) ++
    lit "\x7d"

/-- Words that look like the name of a method. -/
def notMethods : List (List Char) :=
  ["if", "for", "while", "switch", "catch", "function", "return", "super", "new", "typeof",
    "await"].map String.toList

/-- The complexity of a source text. -/
def complexity (text : List Char) : UInt32 := Score.complexity .slashes weights text

/-- The depth of open braces at the beginning of each line, without bounds as in `braceBalance`. -/
def depthsFrom (depth : Int) : List SourceLine → List Int
  | [] => []
  | line :: lines => depth :: depthsFrom (depth + braceBalance line.code) lines

/-- The number of lines after the first that belong to the arrow function beginning with the first
of `lines`: a block if the line ends in a brace, and otherwise none. -/
def arrowSpan (lines : List SourceLine) : Nat :=
  match lines.head? with
  | some head =>
    if (Text.trimEnd head.code).getLast? == some '\x7b' then braceSpan lines else 0
  | none => 0

/-- The classes of a listing, each with the brace depth of its body. `depth` is the depth at the
beginning of the listing. -/
def classesFrom (depth : Int) : List SourceLine → List (ClassEntry × Int)
  | [] => []
  | line :: lines =>
    let rest := classesFrom (depth + braceBalance line.code) lines
    if !line.isCode then rest
    else
      match classHead.find? line.code with
      | some m =>
        let name := String.ofList ((m.partText? .name line.code).getD [])
        (⟨name, line.number, line.number + braceSpan (line :: lines), 0⟩, depth + 1) :: rest
      | none => rest

/-- The body depth of the first of the shortest classes around a line. -/
def innermostBody (classes : List (ClassEntry × Int)) (line : Nat) : Option (ClassEntry × Int) :=
  match classes with
  | [] => none
  | (c, body) :: rest =>
    let inside := c.line < line && line ≤ c.endLine
    match innermostBody rest line with
    | none => if inside then some (c, body) else none
    | some (d, e) =>
      if inside && c.endLine - c.line ≤ d.endLine - d.line then some (c, body) else some (d, e)

/-- Whether a line at a given brace depth stands directly in the body of its innermost class. -/
def isInClassBody (classes : List (ClassEntry × Int)) (line : Nat) (depth : Int) : Bool :=
  (innermostBody classes line).any (·.2 == depth)

/-- A function found in a line, and the number of lines it extends over after the first. -/
structure FunctionHead where
  name : List Char
  isAsync : Bool
  span : Nat

/-- The function whose head is the match `m`. -/
def headOf (m : Match) (code : List Char) (span : Nat) : FunctionHead :=
  ⟨(m.partText? .name code).getD [], (m.part? .asyncMark).isSome, span⟩

/-- The function that the first of `lines` declares. -/
def functionHead? (classes : List (ClassEntry × Int)) (depth : Int) (line : SourceLine)
    (lines : List SourceLine) : Option FunctionHead :=
  match functionHead.find? line.code with
  | some m => some (headOf m line.code (braceSpan lines))
  | none =>
    match arrowHead.find? line.code with
    | some m => some (headOf m line.code (arrowSpan lines))
    | none =>
      if isInClassBody classes line.number depth &&
          (Text.trimEnd line.code).getLast? == some '\x7b' then
        match methodHead.find? line.code with
        | some m =>
          let head := headOf m line.code (braceSpan lines)
          if notMethods.contains head.name then none else some head
        | none => none
      else none

/-- The functions of a listing, where `depth` is the brace depth at its beginning. -/
def functionsFrom (classes : List (ClassEntry × Int)) (depth : Int) :
    List SourceLine → List FunctionEntry
  | [] => []
  | line :: lines =>
    let rest := functionsFrom classes (depth + braceBalance line.code) lines
    if !line.isCode then rest
    else
      match functionHead? classes depth line (line :: lines) with
      | some head =>
        { name := String.ofList head.name
          line := line.number
          endLine := line.number + head.span
          parameters := Parameters.count ["this".toList] line.code
          complexity := complexity (blockText head.span (line :: lines))
          isAsync := head.isAsync } :: rest
      | none => rest

/-- The module that a line imports. -/
def importedModule? (line : SourceLine) : Option String :=
  if ["import", "require", "from"].any fun word => Text.occursIn word.toList line.code then
    [importFrom, importBare, requireCall].findSome? fun pattern =>
      (pattern.find? line.raw).map fun m =>
        String.ofList ((m.partText? .module line.raw).getD [])
  else none

/-- The names that a line of code exports. -/
def exportedNames (code : List Char) : List String :=
  match exportDeclaration.find? code with
  | some m => [String.ofList ((m.partText? .name code).getD [])]
  | none =>
    match exportList.find? code with
    | some m =>
      (Text.splitBy (· == ',') ((m.partText? .names code).getD [])).filterMap fun item =>
        let name := Text.trim (Text.afterLast " as ".toList item)
        if name.isEmpty then none else some (String.ofList name)
    | none => if exportDefault.occurs code then ["default"] else []

/-- The outline of a source text. -/
def outline (text : List Char) : Outline :=
  let lines := listing .slashes text
  let classes := classesFrom 0 lines
  let o : Outline :=
    { functions := functionsFrom classes 0 lines
      classes := classes.map (·.1)
      imports := (codeLines lines).filterMap importedModule?
      exports := (codeLines lines).flatMap fun l => exportedNames l.code }
  o.withMethodCounts

end SourceReview.Script
