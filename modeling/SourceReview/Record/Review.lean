import SourceReview.Calendar.Timestamp
import SourceReview.Record.Finding
import SourceReview.Review.Basic

/-!
# Reviews as records

A review that is kept has the moment at which it was made.
-/

namespace SourceReview

/-- A review together with the moment at which it was made. -/
structure DatedReview extends Review where
  timestamp : Timestamp
  deriving Repr

namespace Review

/-- The members of a review as a JSON value. -/
def members (r : Review) : List (String × Json) :=
  [("filePath", .str r.filePath), ("language", .str r.language),
    ("issues", .arr (r.issues.map (·.toJson))), ("metrics", r.metrics.toJson),
    ("suggestions", .arr (r.suggestions.map (·.toJson)))]

/-- A review as a JSON value. -/
def toJson (r : Review) : Json := .obj r.members

end Review

namespace DatedReview

variable {ν : Type} [Readable ν]

/-- Reads a review. -/
def read (v : ν) : Option DatedReview := do
  let fields ←
    Record.fields? ["filePath", "language", "issues", "metrics", "suggestions", "timestamp"] v
  return {
    filePath := ← Record.required fields "filePath" asText?
    language := ← Record.required fields "language" asText?
    issues := ← Record.required fields "issues" (Record.list Issue.read)
    metrics := ← Record.required fields "metrics" Metrics.read
    suggestions := ← Record.required fields "suggestions" (Record.list Suggestion.read)
    timestamp := ←
      Record.required fields "timestamp" fun v => (asText? v).bind Timestamp.parse? }

/-- A review as a JSON value. -/
def toJson (r : DatedReview) : Json :=
  .obj (r.toReview.members ++ [("timestamp", .str r.timestamp.text)])

end DatedReview

end SourceReview
