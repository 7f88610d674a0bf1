import SourceReview.Json.Basic
import SourceReview.Registry.Table
import SourceReview.Review.Basic
import SourceReview.Total

/-!
# Summaries

A summary sums up reviews: how many issues there are of each severity, and the mean maintainability
with the grade it earns.
-/

namespace SourceReview

/-- A grade of maintainability. -/
inductive Grade where
  | A
  | B
  | C
  | D
  | F
  deriving DecidableEq, Repr

namespace Grade

/-- The letter of a grade. -/
def name : Grade → String
  | .A => "A"
  | .B => "B"
  | .C => "C"
  | .D => "D"
  | .F => "F"

/-- The grade of a maintainability. -/
def ofMaintainability (m : Float) : Grade :=
  if 85 ≤ m then .A else if 70 ≤ m then .B else if 55 ≤ m then .C else if 40 ≤ m then .D else .F

end Grade

/-- The figures of several reviews. -/
structure Summary where
  files : Nat
  issues : Nat
  suggestions : Nat
  /-- The number of issues of each severity that occurs, under the name of the severity. -/
  bySeverity : Table Nat
  /-- The mean maintainability, weighted by lines of code. -/
  maintainability : Float
  technicalDebt : Float
  grade : Grade

namespace Summary

/-- The sum of numbers, which for no numbers is the zero that is neutral in sums. -/
def sum (xs : List Float) : Float := xs.foldl (· + ·) (-0.0)

/-- The number of lines by which a review weighs. Also an empty text weighs one line. -/
def weight (r : Review) : Float := Float.ofNat (max r.metrics.linesOfCode 1)

/-- The mean maintainability of reviews, weighted by lines of code, and 100 if there are none. -/
def meanMaintainability (reviews : List Review) : Float :=
  let weighted := reviews.foldl (fun s r => s + r.metrics.maintainability * weight r) 0
  let total := reviews.foldl (fun s r => s + weight r) 0
  if 0 < total then weighted / total else 100

/-- The mean technical debt of reviews. -/
def meanDebt (reviews : List Review) : Float :=
  if reviews.isEmpty then 0
  else sum (reviews.map (·.metrics.technicalDebt)) / Float.ofNat reviews.length

/-- The counts after one more issue has been seen, by the name of its severity. -/
def countIssue (counts : Table Nat) (i : Issue) : Table Nat :=
  counts.insert i.severity.name ((counts.get? i.severity.name).getD 0 + 1)

/-- The number of issues of each severity that occurs, under the name of the severity. -/
def severityCounts (issues : List Issue) : Table Nat := issues.foldl countIssue {}

/-- The summary of reviews. -/
def ofReviews (reviews : List Review) : Summary :=
  let maintainability := meanMaintainability reviews
  { files := reviews.length
    issues := total (reviews.map (·.issues.length))
    suggestions := total (reviews.map (·.suggestions.length))
    bySeverity := severityCounts (reviews.flatMap (·.issues))
    maintainability
    technicalDebt := meanDebt reviews
    grade := .ofMaintainability maintainability }

/-- The number of issues of a severity. -/
def countOf? (s : Summary) (severity : Severity) : Option Nat := s.bySeverity.get? severity.name

/-- Whether a name is that of a severity at least as serious as a given one. -/
def namesFrom (severity : Severity) (name : String) : Bool :=
  (Severity.ofName? name).any (severity.rank ≤ ·.rank)

/-- The number of issues that are at least as serious as a severity. -/
def countFrom (s : Summary) (severity : Severity) : Nat :=
  (s.bySeverity.filter fun name _ => namesFrom severity name).sum

/-- A summary as a JSON value. -/
def toJson (s : Summary) : Json :=
  .obj [("files", .ofNat s.files), ("issues", .ofNat s.issues),
    ("suggestions", .ofNat s.suggestions),
    ("by_severity", .obj (s.bySeverity.sorted.map fun e => (e.1, .ofNat e.2))),
    ("maintainability", .ofFloat s.maintainability), ("technical_debt", .ofFloat s.technicalDebt),
    ("grade", .str s.grade.name)]

end Summary

end SourceReview
