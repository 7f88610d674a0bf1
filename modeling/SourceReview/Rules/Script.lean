import SourceReview.Outline.Script
import SourceReview.Rules.Basic

/-!
# JavaScript and TypeScript rules

TypeScript has the rules of JavaScript and two more about types.
-/

namespace SourceReview.Script

open Pattern

/-- The length beyond which a line is too long. -/
def lineLimit : Nat := 120

/-- A declaration of a variable that is not scoped to a block. -/
def varKeyword : Pattern := boundary ++ lit "var" ++ gap

/-- A comparison that converts its operands. -/
def looseEquality : Pattern :=
  (atStart <|> except "=!<>") ++ part .operator (words ["==", "!="]) ++ (except "=" <|> atEnd)

/-- A call that writes to the console. -/
def consoleCall : Pattern :=
  boundary ++ lit "console." ++
    words ["log", "debug", "info", "warn", "error", "trace"] ++ blanks ++
    lit "("

/-- A call that runs code given as text. -/
def evalCall : Pattern :=
  (atStart <|> char fun c => c != '.' && c != '$' && !Text.isWord c) ++ lit "eval" ++ blanks ++
      lit "(" <|>
    boundary ++ lit "new" ++ gap ++ lit "Function" ++ blanks ++ lit "("

/-- A breakpoint. -/
def debuggerKeyword : Pattern := keyword ["debugger"]

/-- A type that allows every value. -/
def anyType : Pattern :=
  (lit ":" ++ blanks <|> boundary ++ lit "as" ++ gap <|> lit "<") ++ lit "any" ++ boundary

/-- An assertion that a value is there. -/
def nonNullMark : Pattern :=
  char (fun c => Text.isWord c || c == ')' || c == ']') ++ lit "!" ++
    (among ".[),;" <|> blanks ++ atEnd)

/-- The issues that loose comparisons in a line raise, at the column of the operator. -/
def looseEqualityIssues (line : SourceLine) : List Issue :=
  (looseEquality.scan line.code).map fun m =>
    let operator := String.ofList ((m.partText? .operator line.code).getD [])
    let strict := if operator = "==" then "===" else "!=="
    Rule.issue "eqeqeq" line.number
      (some (((m.part? .operator).map (·.start)).getD 0 + 1))
      ⟨.warning, .medium, "Use '" ++ strict ++ "' instead of '" ++ operator ++ "'",
        some ⟨"Use strict equality", strict⟩⟩

/-- The issues that assertions in a line raise, at the column of the mark, which follows the first
character of the match. -/
def nonNullIssues (line : SourceLine) : List Issue :=
  (nonNullMark.scan line.code).map fun m =>
    Rule.issue "no-non-null-assertion" line.number (some (m.span.start + 2))
      ⟨.warning, .low, "Non-null assertion hides a possible null or undefined", none⟩

/-- The rules of JavaScript. -/
def rules : List Rule :=
  [ .ofPattern "no-var" "`var` declarations" varKeyword
      ⟨.warning, .medium, "Unexpected var; use let or const",
        some ⟨"Use block-scoped declarations", "let "⟩⟩,
    { id := "eqeqeq"
      description := "Loose equality `==` and `!=`"
      check := fun lines => (codeLines lines).flatMap looseEqualityIssues },
    .ofMatch "no-console" "console.* calls" consoleCall fun found =>
      ⟨.info, .low, "Unexpected " ++ Rule.callName found, none⟩,
    .ofPattern "no-eval" "eval() and the Function constructor" evalCall
      ⟨.error, .high, "eval() and new Function() execute arbitrary code", none⟩,
    .ofPattern "no-debugger" "`debugger` statements" debuggerKeyword
      ⟨.error, .medium, "Unexpected debugger statement", some ⟨"Remove the statement", ""⟩⟩,
    .lineLength "max-line-length" "Lines longer than 120 characters" lineLimit ]

/-- The rules of TypeScript. -/
def typedRules : List Rule :=
  rules ++
    [ .ofPattern "no-explicit-any" "Explicit `any` types" anyType
        ⟨.warning, .medium, "Unexpected any; specify a type",
          some ⟨"Use unknown and narrow it", "unknown"⟩⟩,
      { id := "no-non-null-assertion"
        description := "Non-null assertions with postfix `!`"
        check := fun lines => (codeLines lines).flatMap nonNullIssues } ]

end SourceReview.Script
