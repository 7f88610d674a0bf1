import SourceReview.Options.Threshold
import SourceReview.Text.Quoted

/-!
# Failures of a review
-/

namespace SourceReview

/-- Why a text could not be reviewed, or a registration not be made. -/
inductive ReviewError where
  /-- No language is registered for the extension of a file. -/
  | unsupportedFileType (path : String)
  /-- A language is not registered. -/
  | unsupportedLanguage (name : String)
  /-- Nothing is left of an extension without blanks and dots. -/
  | invalidExtension (ext : String)
  /-- A language is registered without an analyzer. -/
  | noAnalyzer (language : String)
  | invalidThreshold (fault : ThresholdError)
  /-- A file cannot be read, for the given reason. -/
  | unreadable (path reason : String)
  deriving Repr

/-- The text of a failure. -/
def ReviewError.message : ReviewError → String
  | .unsupportedFileType path =>
    "unsupported file type: " ++ path ++ " (no language registered for its extension)"
  | .unsupportedLanguage name => "unsupported language: " ++ name
  | .invalidExtension ext => "invalid file extension: " ++ Text.quoted ext
  | .noAnalyzer language => "no analyzer available for language: " ++ language
  | .invalidThreshold fault => "invalid threshold: " ++ fault.message
  | .unreadable path reason => "failed to read " ++ path ++ ": " ++ reason

end SourceReview
