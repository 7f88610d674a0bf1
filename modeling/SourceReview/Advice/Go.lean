import SourceReview.Advice.Basic

/-!
# Go advice
-/

namespace SourceReview.Go

open Pattern

/-- Text that is added to a variable. -/
def textAppend : Pattern :=
  many1 word ++ blanks ++ lit "+=" ++ blanks ++
    (among "\"\x60" <|> many1 word ++ blanks ++ lit "+" ++ blanks ++ lit "\"")

/-- A check for an error. -/
def errorCheck : Pattern :=
  boundary ++ lit "if" ++ gap ++ lit "err" ++ blanks ++ lit "!=" ++ blanks ++ lit "nil" ++ boundary

/-- The advice of the language. -/
def advice : List Advice :=
  [ .ofPattern textAppend 3 fun n =>
      ⟨.optimize, .medium, s!"{n} string concatenations with +=; use strings.Builder",
        { performanceImprovement := some "avoids reallocating the string on every append" }⟩,
    .ofPattern errorCheck 5 fun n =>
      ⟨.extract, .low,
        s!"{n} `if err != nil` checks; wrap repeated handling in a helper",
        { complexityReduction := some (Float.ofNat (n / 2))
          maintainabilityImprovement := some 4 }⟩ ]

end SourceReview.Go
