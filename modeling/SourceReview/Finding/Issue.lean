import SourceReview.Text.Lowercase

/-!
# Issues

An issue is a violation of a rule at a line of a source text.
-/

namespace SourceReview

/-- What an issue amounts to. -/
inductive IssueKind where
  | error
  | warning
  | info
  deriving DecidableEq, Repr

/-- The name of a kind of issue. -/
def IssueKind.name : IssueKind → String
  | .error => "error"
  | .warning => "warning"
  | .info => "info"

/-- All kinds of issues. -/
def IssueKind.all : List IssueKind := [.error, .warning, .info]

/-- How serious an issue is. -/
inductive Severity where
  | low
  | medium
  | high
  | critical
  deriving DecidableEq, Repr

namespace Severity

/-- All severities, from the least serious on. -/
def all : List Severity := [.low, .medium, .high, .critical]

/-- The name of a severity. -/
def name : Severity → String
  | .low => "low"
  | .medium => "medium"
  | .high => "high"
  | .critical => "critical"

/-- The place of a severity on the scale. -/
def rank : Severity → Nat
  | .low => 0
  | .medium => 1
  | .high => 2
  | .critical => 3

/-- The severity of a given name, in letters of either case. -/
def ofName? (s : String) : Option Severity := all.find? (·.name == Text.lowercase s)

/-- The complaint about a name that is no severity. -/
def unknownMessage (s : String) : String := "unknown severity: " ++ s

end Severity

/-- A proposed correction of an issue. -/
structure Fix where
  description : String
  replacement : String
  deriving DecidableEq, Repr

/-- A violation of a rule. -/
structure Issue where
  kind : IssueKind
  severity : Severity
  message : String
  /-- The number of the line, counted from one. -/
  line : Nat
  /-- The column, counted from one, where the rule knows it. -/
  column : Option Nat := none
  rule : String
  fix : Option Fix := none
  deriving DecidableEq, Repr

end SourceReview
