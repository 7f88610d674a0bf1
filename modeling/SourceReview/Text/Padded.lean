/-!
# Padded columns

Tables align their columns by filling a text up with spaces to a number of characters.
-/

namespace SourceReview.Text

/-- `s` followed by as many spaces as it lacks characters to `width`. -/
def padded (width : Nat) (s : String) : String :=
  s ++ String.ofList (List.replicate (width - s.length) ' ')

end SourceReview.Text
