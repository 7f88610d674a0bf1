import SourceReview.Outline.Go
import SourceReview.Rules.Basic
import SourceReview.Rules.Naming

/-!
# Go rules
-/

namespace SourceReview.Go

open Pattern

/-- A declaration of a variable or constant. -/
def variableHead : Pattern :=
  atStart ++ blanks ++ words ["var", "const"] ++ gap ++ part .name name

/-- A declaration of a variable by its value. -/
def shortHead : Pattern := atStart ++ blanks ++ part .name name ++ blanks ++ lit ":="

/-- A result of a call that is thrown away. -/
def discardedResult : Pattern :=
  (atStart ++ blanks <|> lit "," ++ blanks) ++ lit "_" ++ blanks ++ opt (lit ":") ++ lit "=" ++
    blanks ++ many1 (char fun c => Text.isWord c || c == '.') ++ typeParameters ++ lit "("

/-- A call that ends the program. -/
def panicCall : Pattern := boundary ++ lit "panic" ++ blanks ++ lit "("

/-- A call that prints. -/
def printCall : Pattern :=
  boundary ++ lit "fmt.Print" ++ opt (words ["ln", "f"]) ++ blanks ++ lit "(" <|>
    boundary ++ lit "println" ++ blanks ++ lit "("

/-- A kind of declaration at the margin. -/
inductive DeclarationKind where
  | function
  | method
  | type
  deriving DecidableEq, Repr

/-- The name of a kind of declaration. -/
def DeclarationKind.name : DeclarationKind → String
  | .function => "function"
  | .method => "method"
  | .type => "type"

/-- The function, method or type that a line of code declares. -/
def declared? (code : List Char) : Option (DeclarationKind × List Char) :=
  match functionHead.find? code with
  | some m =>
    some (if (m.part? .receiver).isSome then .method else .function,
      (m.partText? .name code).getD [])
  | none => (anyTypeHead.find? code).map fun m => (.type, (m.partText? .name code).getD [])

/-- The name that a line of code declares. -/
def declaredName? (code : List Char) : Option (List Char) :=
  match declared? code with
  | some (_, name) => some name
  | none =>
    [variableHead, shortHead].findSome? fun pattern =>
      (pattern.find? code).map fun m => (m.partText? .name code).getD []

/-- The names of the functions in which a program may end itself. -/
def setupNames : List (List Char) := ["main", "init"].map String.toList

/-- The lines of code that belong to no setup function. `inSetup` tells whether the latest
declaration is one. -/
def outsideSetup (inSetup : Bool) : List SourceLine → List SourceLine
  | [] => []
  | line :: lines =>
    let inSetup :=
      match declared? line.code with
      | some (_, name) => setupNames.contains name
      | none => inSetup
    if inSetup then outsideSetup inSetup lines else line :: outsideSetup inSetup lines

/-- The issues that exported names without a comment raise. `documented` tells whether the latest
line that was not blank is a comment. -/
def exportedDocIssues (documented : Bool) : List SourceLine → List Issue
  | [] => []
  | line :: lines =>
    let rest := exportedDocIssues (if line.isBlank then documented else line.isComment) lines
    if !line.isCode || documented then rest
    else
      match declared? line.code with
      | some (kind, name) =>
        if isExported name then
          let name := String.ofList name
          Rule.issue "exported-doc" line.number none
            ⟨.info, .low, "Exported " ++ kind.name ++ " " ++ name ++ " should have a doc comment",
              some ⟨"Add a doc comment", "// " ++ name ++ " ..."⟩⟩ :: rest
        else rest
      | none => rest

/-- Whether a name is one that the test runner looks for, in which underscores are common. -/
def isTestName (name : List Char) : Bool :=
  ["Test", "Benchmark", "Example", "Fuzz"].any fun head => Text.startsWith name head.toList

/-- The issue that the name declared in a line raises. -/
def namingIssue? (line : SourceLine) : Option Issue :=
  match declaredName? line.code with
  | some name =>
    if name = ['_'] || !name.contains '_' || isTestName name then none
    else
      some (Rule.issue "naming-convention" line.number none
        ⟨.info, .low,
          "Name '" ++ String.ofList name ++ "' should use MixedCaps, not underscores",
          some ⟨"Rename to MixedCaps", String.ofList (Naming.toMixedCaps name)⟩⟩)
  | none => none

/-- The rules of the language. -/
def rules : List Rule :=
  [ .ofPattern "ignored-error" "Errors discarded with the blank identifier" discardedResult
      ⟨.warning, .high, "Error result discarded with _",
        some ⟨"Handle the error", "if err != nil \x7b return err \x7d"⟩⟩,
    { id := "panic-usage"
      description := "panic() outside of main and init"
      check := fun lines =>
        Rule.patternIssues "panic-usage" panicCall
          (fun _ _ => some
            ⟨.warning, .medium, "panic in library code; return an error instead", none⟩)
          (outsideSetup false (codeLines lines)) },
    .ofPattern "debug-print" "fmt.Print* and println debugging" printCall
      ⟨.info, .low, "Debug print; use the log package", none⟩,
    { id := "exported-doc"
      description := "Exported identifiers without a doc comment"
      check := exportedDocIssues false },
    { id := "naming-convention"
      description := "MixedCaps names instead of underscores"
      check := fun lines => (codeLines lines).filterMap namingIssue? } ]

end SourceReview.Go
