import SourceReview.Json.Printer
import SourceReview.Record.Review

/-!
# Reports for programs
-/

namespace SourceReview.Report

/-- The reviews as a JSON text over several lines. -/
def json (reviews : List DatedReview) : String :=
  (Json.arr (reviews.map (·.toJson))).pretty ++ "\n"

end SourceReview.Report
