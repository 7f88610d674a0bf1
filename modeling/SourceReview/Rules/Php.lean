import SourceReview.Outline.Php
import SourceReview.Rules.Basic
import SourceReview.Text.Alphabetic

/-!
# PHP rules

Most of these look for data that reaches a query, the output or the interpreter without care.
-/

namespace SourceReview.Php

open Pattern

/-- The text `s`, written in small letters of the ASCII block, in letters of either case. The long s
is a form of the letter s. -/
def litAnyCase (s : String) : Pattern :=
  s.toList.foldr (fun c p => char (fun d => d.toLower == c || c == 's' && d == 'ſ') ++ p) empty

/-- A keyword of the query language inside a literal. -/
def queryKeyword : Pattern :=
  quote ++ many (except "'\"") ++ boundary ++
    (litAnyCase "select" <|> litAnyCase "insert" ++ gap ++ litAnyCase "into" <|>
      litAnyCase "update" <|> litAnyCase "delete" ++ gap ++ litAnyCase "from") ++
    boundary

/-- A variable that holds data of the request. -/
def requestVariable : Pattern :=
  lit "$_" ++ words ["GET", "POST", "REQUEST", "COOKIE"] ++ boundary

/-- An output of data of the request. -/
def requestOutput : Pattern :=
  keyword ["echo", "print"] ++ many (except ";") ++ requestVariable

/-- A call that escapes or converts data. -/
def escapeCall : Pattern :=
  boundary ++ words ["htmlspecialchars", "htmlentities", "strip_tags", "intval"] ++ blanks ++
    lit "("

/-- A call that runs code given as text. -/
def evalCall : Pattern :=
  (atStart <|> char fun c => c != '>' && c != '$' && !Text.isWord c) ++
    words ["eval", "create_function", "assert"] ++ blanks ++ lit "("

/-- A call of a removed database function. -/
def mysqlCall : Pattern := boundary ++ lit "mysql_" ++ many1 word ++ blanks ++ lit "("

/-- The operator that hides errors. -/
def suppression : Pattern :=
  (atStart <|> char fun c => Text.isBlank c || "=(,!.".toList.contains c) ++ lit "@" ++
    opt (lit "$") ++ nameStart

/-- An open tag in its short form. -/
def shortTag : Pattern := lit "<?" ++ (except "p=x" <|> atEnd)

/-- A call that prints for debugging. -/
def debugCall : Pattern :=
  boundary ++ words ["var_dump", "print_r", "var_export", "die", "dd"] ++ blanks ++ lit "("

/-- Whether a text holds a variable inside of double quotes. `inside` tells whether the text begins
inside of quotes. A backslash there takes the character after it out of consideration. -/
def interpolatesFrom (inside : Bool) : List Char → Bool
  | [] => false
  | c :: cs =>
    if inside && c == '\\' then
      match cs with
      | [] => false
      | _ :: cs => interpolatesFrom inside cs
    else if c == '"' then interpolatesFrom (!inside) cs
    else
      inside && c == '$' && cs.head?.any (fun d => Text.isAlphabetic d || d == '_') ||
        interpolatesFrom inside cs

/-- Whether a line builds a query from variables. -/
def buildsQuery (line : SourceLine) : Bool :=
  queryKeyword.occurs line.raw &&
    (requestVariable.occurs line.code || Text.occursIn "\" .".toList line.code ||
      Text.occursIn "\".".toList line.code || Text.occursIn "\x7b$".toList line.raw ||
      interpolatesFrom false line.raw)

/-- The issue that a query built from variables raises. -/
def injectionIssue? (line : SourceLine) : Option Issue :=
  if buildsQuery line then
    some (Rule.issue "sql-injection" line.number none
      ⟨.error, .critical, "SQL query built from variables; use prepared statements",
        some ⟨"Bind parameters with PDO",
          "$stmt = $pdo->prepare($sql); $stmt->execute($params);"⟩⟩)
  else none

/-- The issue that the first short open tag in a line raises. -/
def shortTagIssue? (line : SourceLine) : Option Issue :=
  (shortTag.find? line.raw).map fun m =>
    Rule.issue "short-open-tag" line.number (some (m.span.start + 1))
      ⟨.warning, .low, "Short open tag depends on short_open_tag",
        some ⟨"Use the full open tag", "<?php"⟩⟩

/-- The rules of the language. -/
def rules : List Rule :=
  [ { id := "sql-injection"
      description := "SQL built from request variables or concatenation"
      check := fun lines => (codeLines lines).filterMap injectionIssue? },
    { id := "xss-echo"
      description := "Request variables echoed without escaping"
      check := Rule.patternIssues "xss-echo" requestOutput fun line _ =>
        if escapeCall.occurs line.code then none
        else some
          ⟨.error, .high, "Request data echoed without escaping",
            some ⟨"Escape output", "htmlspecialchars($value, ENT_QUOTES, 'UTF-8')"⟩⟩ },
    .ofMatch "eval-usage" "eval(), create_function() and similar" evalCall fun found =>
      let call := String.ofList (Text.dropLeading (!Text.isAlphabetic ·) found.toList)
      ⟨.error, .critical, Rule.callName call ++ " executes code built at runtime", none⟩,
    .ofMatch "deprecated-mysql" "Removed mysql_* functions" mysqlCall fun found =>
      ⟨.error, .high, Rule.callName found ++ " was removed in PHP 7",
        some ⟨"Use PDO or mysqli", "mysqli_"⟩⟩,
    .ofPattern "error-suppression" "The @ error suppression operator" suppression
      ⟨.warning, .medium, "Error suppression with @ hides failures", none⟩,
    { id := "short-open-tag"
      description := "`<?` instead of `<?php`"
      check := fun lines => (lines.filter (!·.isBlank)).filterMap shortTagIssue? },
    .ofMatch "debug-output" "var_dump(), print_r() and die() left in code" debugCall fun found =>
      ⟨.warning, .low, "Debug output " ++ Rule.callName found ++ " left in code", none⟩ ]

end SourceReview.Php
