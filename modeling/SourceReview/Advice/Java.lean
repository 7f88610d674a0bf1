import SourceReview.Advice.Basic

/-!
# Java advice
-/

namespace SourceReview.Java

open Pattern

/-- Text that is added to a variable. -/
def textAppend : Pattern :=
  boundary ++ many1 word ++ blanks ++ lit "+=" ++ blanks ++
    (lit "\"" <|> many1 word ++ blanks ++ lit "+" ++ blanks ++ lit "\"")

/-- The head of a loop over the indices of a collection. -/
def indexLoop : Pattern :=
  boundary ++ lit "for" ++ blanks ++ lit "(" ++ blanks ++ lit "int" ++ gap ++ many1 word ++
    blanks ++ lit "=" ++ blanks ++ lit "0" ++ blanks ++ lit ";" ++ blanks ++ many1 word ++
    blanks ++ lit "<" ++ blanks ++ many1 (char fun c => Text.isWord c || c == '.') ++ lit "." ++
    words ["size()", "length"]

/-- An instance of a class without a name. -/
def anonymousClass : Pattern :=
  boundary ++ lit "new" ++ gap ++ char Char.isUpper ++ many word ++
    opt (lit "<" ++ many (except ">") ++ lit ">") ++ blanks ++ lit "(" ++ blanks ++ lit ")" ++
    blanks ++ lit "\x7b"

/-- The advice of the language. -/
def advice : List Advice :=
  [ .ofPattern textAppend 3 fun n =>
      ⟨.optimize, .medium, s!"{n} string concatenations with +=; use StringBuilder",
        { performanceImprovement := some "avoids intermediate String allocations" }⟩,
    .ofPattern indexLoop 2 fun n =>
      ⟨.modernize, .low, s!"{n} index-based loops; use enhanced for loops or streams",
        { maintainabilityImprovement := some 3 }⟩,
    .ofPattern anonymousClass 2 fun n =>
      ⟨.modernize, .low, s!"{n} anonymous classes; replace functional interfaces with lambdas",
        { maintainabilityImprovement := some 4 }⟩ ]

end SourceReview.Java
