import SourceReview.Advice.Basic
import SourceReview.Rules.Script

/-!
# JavaScript and TypeScript advice
-/

namespace SourceReview.Script

open Pattern

/-- A call that chains a promise. -/
def thenCall : Pattern := lit ".then" ++ blanks ++ lit "("

/-- Text that is joined with a value. -/
def textJoin : Pattern :=
  quote ++ blanks ++ lit "+" ++ blanks ++ char (fun c => Text.isWord c || c == '$' || c == '(') <|>
    char (fun c => Text.isWord c || c == '$' || c == ')') ++ blanks ++ lit "+" ++ blanks ++ quote

/-- The head of a loop over the indices of an array. -/
def indexLoop : Pattern :=
  boundary ++ lit "for" ++ blanks ++ lit "(" ++ blanks ++ words ["let", "var"] ++ gap ++
    many1 word ++ blanks ++ lit "=" ++ blanks ++ lit "0" ++ blanks ++ lit ";" ++ blanks ++
    many1 word ++ blanks ++ lit "<" ++ blanks ++
    many1 (char fun c => Text.isWord c || c == '$' || c == '.') ++ lit ".length"

/-- The advice of JavaScript. -/
def advice : List Advice :=
  [ .ofPattern thenCall 2 fun n =>
      ⟨.modernize, .medium, s!"{n} .then() calls; rewrite promise chains with async/await",
        { complexityReduction := some 1, maintainabilityImprovement := some 5 }⟩,
    .ofPattern textJoin 3 fun n =>
      ⟨.modernize, .low, s!"{n} string concatenations; use template literals",
        { maintainabilityImprovement := some 2 }⟩,
    .ofPattern varKeyword 3 fun n =>
      ⟨.modernize, .medium, s!"{n} var declarations; replace with let or const",
        { maintainabilityImprovement := some 3 }⟩,
    .ofPattern indexLoop 2 fun n =>
      ⟨.modernize, .low,
        s!"{n} index-based loops over arrays; use for...of or map/filter/reduce",
        { complexityReduction := some (Float.ofNat n * 0.5)
          maintainabilityImprovement := some 3 }⟩ ]

/-- The advice of TypeScript. -/
def typedAdvice : List Advice :=
  advice ++
    [ .ofPattern anyType 3 fun n =>
        ⟨.restructure, .medium, s!"{n} explicit any types; introduce interfaces or generics",
          { maintainabilityImprovement := some 6 }⟩ ]

end SourceReview.Script
