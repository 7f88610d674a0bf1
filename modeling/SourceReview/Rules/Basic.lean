import SourceReview.Finding.Issue
import SourceReview.Listing.Basic
import SourceReview.Pattern.Search

/-!
# Rules

A rule has an identifier, a description, and a check that reports its violations in a listing. The
rules of a language form a pack; each is checked by itself.
-/

namespace SourceReview

/-- A rule of a language. -/
structure Rule where
  id : String
  description : String
  check : List SourceLine → List Issue

/-- What a rule says about a match of its pattern. -/
structure Verdict where
  kind : IssueKind
  severity : Severity
  message : String
  fix : Option Fix := none

namespace Rule

/-- The issue that a verdict makes of a line. -/
def issue (rule : String) (line : Nat) (column : Option Nat) (v : Verdict) : Issue where
  kind := v.kind
  severity := v.severity
  message := v.message
  line := line
  column := column
  rule := rule
  fix := v.fix

/-- One issue for each match of a pattern in the code that the verdict does not pass over, at the
column where the match begins. -/
def patternIssues (rule : String) (pattern : Pattern)
    (verdict : SourceLine → List Char → Option Verdict) (lines : List SourceLine) : List Issue :=
  (codeLines lines).flatMap fun l =>
    (pattern.scan l.code).filterMap fun m =>
      (verdict l (m.span.of l.code)).map (issue rule l.number (some (m.span.start + 1)))

/-- A rule that reports every match of a pattern in the code with the same verdict. -/
def ofPattern (id description : String) (pattern : Pattern) (verdict : Verdict) : Rule where
  id := id
  description := description
  check := patternIssues id pattern fun _ _ => some verdict

/-- A rule that reports every match of a pattern in the code with a verdict on the matched text. -/
def ofMatch (id description : String) (pattern : Pattern) (verdict : String → Verdict) : Rule where
  id := id
  description := description
  check := patternIssues id pattern fun _ found => some (verdict (String.ofList found))

/-- A rule that reports lines longer than `limit` characters, at the first column beyond it. -/
def lineLength (id description : String) (limit : Nat) : Rule where
  id := id
  description := description
  check lines :=
    (lines.filter fun l => !l.isBlank && limit < l.raw.length).map fun l =>
      issue id l.number (some (limit + 1))
        ⟨.info, .low, s!"Line is {l.raw.length} characters long, exceeding {limit}", none⟩

/-- The issues of the rules named in `ids`, in the order of `ids`. Names that are not in the pack
are ignored. -/
def checkAll (pack : List Rule) (ids : List String) (lines : List SourceLine) : List Issue :=
  ids.flatMap fun id =>
    match pack.find? (·.id == id) with
    | some rule => rule.check lines
    | none => []

/-- The description of a rule in a pack. -/
def describe? (pack : List Rule) (id : String) : Option String :=
  (pack.find? (·.id == id)).map (·.description)

/-- The text of a call without the opening parenthesis and the spaces before it. -/
def callName (found : String) : String :=
  String.ofList (Text.dropTrailing (fun c => c == '(' || c == ' ') found.toList)

end Rule

end SourceReview
