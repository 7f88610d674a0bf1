import SourceReview.Outline.Java
import SourceReview.Rules.Basic
import SourceReview.Rules.Naming

/-!
# Java rules
-/

namespace SourceReview.Java

open Pattern

/-- The length beyond which a line is too long. -/
def lineLimit : Nat := 120

/-- The head of a handler up to the opening brace. -/
def catchHead : Pattern :=
  boundary ++ lit "catch" ++ blanks ++ lit "(" ++ many (except ")") ++ lit ")" ++ blanks ++
    lit "\x7b" ++ blanks

/-- A handler that is empty within its line. -/
def emptyCatch : Pattern := catchHead ++ lit "\x7d"

/-- A handler of which the line holds nothing but the head. -/
def openCatch : Pattern := catchHead ++ atEnd

/-- An operator that compares references. -/
def equalityOperator : Pattern := words ["==", "!="]

/-- A comparison of a string literal by reference. -/
def stringComparison : Pattern :=
  equalityOperator ++ blanks ++ lit "\"" <|> lit "\"" ++ blanks ++ equalityOperator

/-- A handler of all exceptions. -/
def genericCatch : Pattern :=
  boundary ++ lit "catch" ++ blanks ++ lit "(" ++ blanks ++ opt (lit "final" ++ gap) ++
    words ["Exception", "Throwable", "RuntimeException"] ++ gap ++ many1 word ++ blanks ++ lit ")"

/-- A declaration that anything may be thrown. -/
def genericThrows : Pattern :=
  boundary ++ lit "throws" ++ gap ++
    many (many1 (char fun c => Text.isWord c || c == '.') ++ blanks ++ lit "," ++ blanks) ++
    words ["Exception", "Throwable"] ++ boundary

/-- A call that prints the trace of an exception. -/
def stackTraceCall : Pattern :=
  lit ".printStackTrace" ++ blanks ++ lit "(" ++ blanks ++ lit ")"

/-- A call that prints to the console. -/
def consoleCall : Pattern :=
  boundary ++ lit "System." ++ words ["out", "err"] ++ lit ".print" ++ opt (words ["ln", "f"]) ++
    blanks ++ lit "("

/-- The issues that the names declared in lines of code raise. `types` are the types declared so
far: a method of the same name as one of them is a constructor. -/
def namingIssues (types : List (List Char)) : List SourceLine → List Issue
  | [] => []
  | line :: lines =>
    match typeHead.find? line.code with
    | some m =>
      let name := (m.partText? .name line.code).getD []
      let rest := namingIssues (name :: types) lines
      if Naming.isPascalCase name then rest
      else
        Rule.issue "naming-convention" line.number none
          ⟨.info, .low, "Type name '" ++ String.ofList name ++ "' should be PascalCase", none⟩ ::
            rest
    | none =>
      match methodHead? line.code with
      | some head =>
        if types.contains head.name || Naming.isCamelCase head.name then namingIssues types lines
        else
          Rule.issue "naming-convention" line.number none
            ⟨.info, .low, "Method name '" ++ String.ofList head.name ++ "' should be camelCase",
              some ⟨"Rename to camelCase", String.ofList (Naming.toCamelCase head.name)⟩⟩ ::
            namingIssues types lines
      | none => namingIssues types lines

/-- Whether the first line of `lines` that is not blank closes a block right away. A comment is more
than nothing. -/
def closesAtOnce (lines : List SourceLine) : Bool :=
  (lines.find? (!·.isBlank)).any fun l =>
    l.isCode && (Text.trimStart l.code).head? == some '\x7d'

/-- The issues that empty handlers raise. -/
def emptyCatchIssues : List SourceLine → List Issue
  | [] => []
  | line :: lines =>
    let rest := emptyCatchIssues lines
    if line.isCode &&
        (emptyCatch.occurs line.code || (openCatch.occurs line.code && closesAtOnce lines)) then
      Rule.issue "empty-catch" line.number none
        ⟨.warning, .medium, "Empty catch block swallows the exception", none⟩ :: rest
    else rest

/-- The issues that handlers and declarations of all exceptions raise. -/
def genericExceptionIssues (lines : List SourceLine) : List Issue :=
  Rule.patternIssues "generic-exception" genericCatch
      (fun _ _ => some
        ⟨.warning, .medium, "Catching a generic exception hides unexpected failures", none⟩)
      lines ++
    Rule.patternIssues "generic-exception" genericThrows
      (fun _ _ => some
        ⟨.warning, .low, "Declare specific checked exceptions instead of Exception", none⟩) lines

/-- The rules of the language. -/
def rules : List Rule :=
  [ { id := "naming-convention"
      description := "Types in PascalCase, methods in camelCase"
      check := fun lines => namingIssues [] (codeLines lines) },
    { id := "empty-catch"
      description := "catch blocks with an empty body"
      check := emptyCatchIssues },
    .ofPattern "string-equality" "String comparison with == or !=" stringComparison
      ⟨.error, .high, "Strings compared by reference; use equals()",
        some ⟨"Compare with equals()", "\"literal\".equals(value)"⟩⟩,
    { id := "generic-exception"
      description := "Catching or throwing Exception/Throwable"
      check := genericExceptionIssues },
    .ofPattern "print-stack-trace" "printStackTrace() calls" stackTraceCall
      ⟨.warning, .low, "printStackTrace() bypasses logging", none⟩,
    .ofMatch "system-out" "System.out/System.err printing" consoleCall fun found =>
      ⟨.info, .low, Rule.callName found ++ " call; use a logger", none⟩,
    .lineLength "line-length" "Lines longer than 120 characters" lineLimit ]

end SourceReview.Java
