import SourceReview.Decimal.Layout
import SourceReview.Finding.Metrics
import SourceReview.Finding.Suggestion
import SourceReview.Listing.Basic
import SourceReview.Outline.Basic
import SourceReview.Pattern.Search
import SourceReview.Score.Rounding

/-!
# Advice

A piece of advice looks through a listing for habits that could be improved, and makes at most one
suggestion, at the line where the habit shows first. Besides the advice of each language, long
functions, missing comments and great complexity lead to suggestions in every language.
-/

namespace SourceReview

/-- A suggestion that is not yet tied to a line. -/
structure Proposal where
  kind : SuggestionKind
  priority : Priority
  description : String
  impact : Impact

/-- The suggestion that a proposal makes at a line. -/
def Proposal.at (p : Proposal) (line : Nat) : Suggestion where
  kind := p.kind
  priority := p.priority
  description := p.description
  line := line
  impact := p.impact

/-- A piece of advice. -/
abbrev Advice := List SourceLine → Option Suggestion

namespace Advice

/-- The proposal on `numbers.length` places, tied to the first of them, if there are at least
`least` of them. -/
def ofLines (least : Nat) (numbers : List Nat) (propose : Nat → Proposal) : Option Suggestion :=
  if least ≤ numbers.length then numbers.head?.map (propose numbers.length).at else none

/-- How often a pattern matches, and the line of the first match. Lines are counted from one, and
zero stands for no match yet. -/
structure MatchCount where
  count : Nat := 0
  first : Nat := 0

/-- The count with the matches in one more line. -/
def countLine (pattern : Pattern) (found : MatchCount) (l : SourceLine) : MatchCount :=
  let n := pattern.count l.code
  { count := found.count + n
    first := if 0 < n && found.first == 0 then l.number else found.first }

/-- How often a pattern matches code, and where first. -/
def countMatches (pattern : Pattern) (lines : List SourceLine) : MatchCount :=
  (codeLines lines).foldl (countLine pattern) {}

/-- Advice on a pattern that matches code at least `least` times, tied to the line of the first
match. -/
def ofPattern (pattern : Pattern) (least : Nat) (propose : Nat → Proposal) : Advice := fun lines =>
  let found := countMatches pattern lines
  if least ≤ found.count then some ((propose found.count).at found.first) else none

/-- The number of lines up to which a function is not too long. -/
def longFunction : Nat := 50

/-- The suggestion to split a function, if it is long. -/
def onLength (f : FunctionEntry) : Option Suggestion :=
  if f.length ≤ longFunction then none
  else
    some
      { kind := .extract
        priority := if longFunction * 2 < f.length then .high else .medium
        description := s!"Function '{f.name}' spans {f.length} lines; " ++
          "extract cohesive steps into helper functions"
        line := f.line
        impact :=
          { complexityReduction := some (Decimal.toWhole (f.complexity.toFloat * 0.3))
            maintainabilityImprovement := some 10 } }

/-- The suggestions to split long functions. -/
def onLongFunctions (o : Outline) : List Suggestion := o.functions.filterMap onLength

/-- The number of lines of code below which comments are not asked for. -/
def tinyText : Nat := 20

/-- The suggestion to write comments, if they are less than `wanted` percent. -/
def onComments (wanted : Float) (m : Metrics) : Option Suggestion :=
  if m.linesOfCode < tinyText || wanted ≤ m.commentPercentage then none
  else
    some
      { kind := .document
        priority := .low
        description := "Only " ++ Decimal.fixedText 1 m.commentPercentage ++
          "% of lines are comments; document public functions and non-obvious logic"
        line := 1
        impact := { maintainabilityImprovement := some 5 } }

/-- The suggestion to simplify a text, if its complexity exceeds `limit`. It is urgent beyond twice
the limit, taken in 32 bits. -/
def onComplexity (limit : UInt32) (m : Metrics) : Option Suggestion :=
  if m.complexity ≤ limit then none
  else
    some
      { kind := .restructure
        priority := if limit * 2 < m.complexity then .high else .medium
        description := s!"Overall complexity is {m.complexity}; " ++
          "replace nested conditionals with early returns or lookup tables"
        line := 1
        impact :=
          { complexityReduction := some (Decimal.toWhole ((m.complexity - limit).toFloat * 0.5))
            maintainabilityImprovement := some 8 } }

end Advice

end SourceReview
