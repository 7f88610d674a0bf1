import SourceReview.Outline.Python
import SourceReview.Rules.Basic
import SourceReview.Rules.Naming

/-!
# Python rules
-/

namespace SourceReview.Python

open Pattern

/-- The length beyond which a line is too long. -/
def lineLimit : Nat := 88

/-- A place that does not continue a word or a member access: the start of the line, or one other
character. -/
def fresh : Pattern := atStart <|> char fun c => c != '.' && !Text.isWord c

/-- An exception handler without a type. -/
def bareExcept : Pattern := atStart ++ blanks ++ lit "except" ++ blanks ++ lit ":"

/-- A default value that is a fresh container. -/
def mutableDefault : Pattern :=
  lit "=" ++ blanks ++
    (lit "[" ++ blanks ++ lit "]" <|> lit "\x7b" ++ blanks ++ lit "\x7d" <|>
      words ["list()", "dict()", "set()"])

/-- The import of all names of a module. -/
def wildcardImport : Pattern :=
  atStart ++ blanks ++ lit "from" ++ gap ++ many1 (char (!Text.isBlank ·)) ++ gap ++ lit "import" ++
    gap ++ lit "*"

/-- A call that runs code given as text. -/
def evalCall : Pattern := fresh ++ words ["eval", "exec"] ++ blanks ++ lit "("

/-- A comparison with the null value. -/
def noneComparison : Pattern := words ["==", "!="] ++ blanks ++ lit "None" ++ boundary

/-- A call that prints. -/
def printCall : Pattern := fresh ++ lit "print" ++ blanks ++ lit "("

/-- The issue that the name declared in a line raises. -/
def namingIssue? (line : SourceLine) : Option Issue :=
  match functionHead.find? line.code with
  | some m =>
    let name := (m.partText? .name line.code).getD []
    if !Text.startsWith name "__".toList && name.any Char.isUpper then
      some (Rule.issue "naming-convention" line.number none
        ⟨.info, .low, "Function name '" ++ String.ofList name ++ "' should be snake_case",
          some ⟨"Rename to snake_case", String.ofList (Naming.toSnakeCase name)⟩⟩)
    else none
  | none =>
    match classHead.find? line.code with
    | some m =>
      let name := (m.partText? .name line.code).getD []
      if Naming.isPascalCase (Text.dropLeading (· == '_') name) then none
      else
        some (Rule.issue "naming-convention" line.number none
          ⟨.info, .low, "Class name '" ++ String.ofList name ++ "' should be PascalCase", none⟩)
    | none => none

/-- The issue that the default values in the head of a function raise. -/
def mutableDefaultIssue? (line : SourceLine) : Option Issue :=
  if functionHead.occurs line.code && mutableDefault.occurs line.code then
    some (Rule.issue "mutable-default-arg" line.number none
      ⟨.warning, .high, "Mutable default argument is shared between calls",
        some ⟨"Default to None and create the value in the body", "=None"⟩⟩)
  else none

/-- The rules of the language. -/
def rules : List Rule :=
  [ .lineLength "line-length" "Lines longer than 88 characters" lineLimit,
    { id := "naming-convention"
      description := "Functions in snake_case, classes in PascalCase"
      check := fun lines => (codeLines lines).filterMap namingIssue? },
    .ofPattern "bare-except" "`except:` without an exception type" bareExcept
      ⟨.warning, .medium, "Bare except clause catches SystemExit and KeyboardInterrupt",
        some ⟨"Catch a specific exception type", "except Exception:"⟩⟩,
    { id := "mutable-default-arg"
      description := "Mutable default argument values"
      check := fun lines => (codeLines lines).filterMap mutableDefaultIssue? },
    .ofPattern "wildcard-import" "`from module import *`" wildcardImport
      ⟨.warning, .medium, "Wildcard import pollutes the module namespace", none⟩,
    .ofPattern "eval-usage" "Calls to eval() or exec()" evalCall
      ⟨.error, .high, "eval()/exec() can execute arbitrary code", none⟩,
    .ofMatch "compare-to-none" "Equality comparison with None" noneComparison fun found =>
      ⟨.info, .low, "Comparison to None should use identity",
        some ⟨"Use an identity check", if found.startsWith "!=" then "is not None" else "is None"⟩⟩,
    .ofPattern "print-statement" "print() calls left in code" printCall
      ⟨.info, .low, "print() call; prefer the logging module", none⟩ ]

end SourceReview.Python
