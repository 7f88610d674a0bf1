import SourceReview.Decimal.Layout
import SourceReview.Report.Styled
import SourceReview.Report.Summary

/-!
# Reports for reading

A report lists the reviews, each with its figures, issues and suggestions, and ends with a summary.
-/

namespace SourceReview.Report

/-- The name of the program. -/
def programName : String := "codelens"

/-- The version of the program. -/
def programVersion : String := "0.1.0"

/-- The tag of a severity. -/
def severityTag : Severity → Piece
  | .critical => .styled .boldRed 0 "CRIT"
  | .high => .styled .red 0 "HIGH"
  | .medium => .styled .yellow 0 "MED "
  | .low => .styled .blue 0 "LOW "

/-- The style of a grade. -/
def gradeStyle : Grade → PieceStyle
  | .A => .boldGreen
  | .B => .green
  | .C => .yellow
  | .D => .boldYellow
  | .F => .red

/-- The place of an issue: its line, and its column where it is known. -/
def location (i : Issue) : String :=
  match i.column with
  | some column => s!"{i.line}:{column}"
  | none => toString i.line

/-- The lines about an issue. -/
def issuePieces (i : Issue) : List Piece :=
  [.plain "    ", severityTag i.severity, .plain " ", .styled .dimmed 22 i.rule, .plain " ",
    .styled .dimmed 8 (location i), .plain (" " ++ i.message ++ "\n")] ++
    match i.fix with
    | some fix =>
      [.plain "             ", .styled .dimmed 0 "fix:", .plain (" " ++ fix.description ++ " ("),
        .styled .green 0 fix.replacement, .plain ")\n"]
    | none => []

/-- The line about a suggestion. -/
def suggestionPieces (s : Suggestion) : List Piece :=
  [.plain ("      " ++ Text.padded 8 ("[" ++ s.priority.name ++ "]") ++ " "),
    .styled .cyan 12 s.kind.name, .plain " ", .styled .dimmed 0 s!"line {s.line}",
    .plain ("  " ++ s.description ++ "\n")]

/-- The figures of a text on one line. -/
def figures (m : Metrics) : String :=
  s!"loc {m.linesOfCode}  functions {m.functionCount}  complexity {m.complexity}" ++
    "  maintainability " ++ Decimal.fixedText 1 m.maintainability ++
    "  debt " ++ Decimal.fixedText 1 m.technicalDebt ++
    "  comments " ++ Decimal.fixedText 1 m.commentPercentage ++ "%"

/-- The line about the dependencies of a text, if there are any. -/
def dependencyPieces (dependencies : List String) : List Piece :=
  if dependencies.isEmpty then []
  else
    [.plain "    ", .styled .dimmed 0 "imports:",
      .plain (" " ++ ", ".intercalate dependencies ++ "\n")]

/-- The lines about the issues of a review. -/
def issueListPieces (issues : List Issue) : List Piece :=
  if issues.isEmpty then [.plain "    ", .styled .green 0 "no issues", .plain "\n"]
  else issues.flatMap issuePieces

/-- The lines about the suggestions of a review, if there are any. -/
def suggestionListPieces (suggestions : List Suggestion) : List Piece :=
  if suggestions.isEmpty then []
  else
    [.plain "    ", .styled .bold 0 "Suggestions", .plain s!" ({suggestions.length}):\n"] ++
      suggestions.flatMap suggestionPieces

/-- The lines about a review. -/
def reviewPieces (showSuggestions : Bool) (r : Review) : List Piece :=
  [.plain "  ", .styled .boldBlue 0 r.filePath, .plain "  ",
    .styled .dimmed 0 ("[" ++ r.language ++ "]"), .plain "\n    ",
    .styled .dimmed 0 (figures r.metrics), .plain "\n"] ++
    dependencyPieces r.metrics.dependencies ++ issueListPieces r.issues ++
    (if showSuggestions then suggestionListPieces r.suggestions else []) ++ [.plain "\n"]

/-- The numbers of issues by severity, the most serious first. -/
def breakdown (s : Summary) : String :=
  let parts := Severity.all.reverse.filterMap fun severity =>
    (s.countOf? severity).map fun n => s!"{n} {severity.name}"
  if parts.isEmpty then "" else " (" ++ ", ".intercalate parts ++ ")"

/-- The line of the summary. -/
def summaryPieces (s : Summary) : List Piece :=
  [.plain "  ", .styled .bold 0 "Summary:",
    .plain (s!" {s.files} file" ++ (if s.files = 1 then "" else "s") ++ s!"  {s.issues} issues" ++
      breakdown s ++ s!"  {s.suggestions} suggestions  Maintainability: " ++
      Decimal.fixedText 1 s.maintainability ++ "  Grade: "),
    .styled (gradeStyle s.grade) 0 s.grade.name, .plain "\n"]

/-- The report on reviews. -/
def pieces (showSuggestions : Bool) (reviews : List Review) : List Piece :=
  [.plain "\n  ", .styled .boldCyan 0 programName, .plain (" v" ++ programVersion ++ "\n\n")] ++
    reviews.flatMap (reviewPieces showSuggestions) ++
    summaryPieces (.ofReviews reviews) ++ [.plain "\n"]

/-- The report on reviews, with or without colors. -/
def pretty (color showSuggestions : Bool) (reviews : List Review) : String :=
  Piece.renderAll color (pieces showSuggestions reviews)

end SourceReview.Report
