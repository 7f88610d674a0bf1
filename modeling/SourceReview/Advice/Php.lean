import SourceReview.Advice.Basic
import SourceReview.Rules.Php

/-!
# PHP advice
-/

namespace SourceReview.Php

open Pattern

/-- An array in its long form. -/
def longArray : Pattern := boundary ++ lit "array" ++ blanks ++ lit "("

/-- A variable between two pieces of quoted text. -/
def joinedVariable : Pattern :=
  lit "\"" ++ blanks ++ lit "." ++ blanks ++ lit "$" ++ many1 word ++ blanks ++ lit "." ++ blanks ++
    lit "\""

/-- The numbers of the lines of code whose raw text joins a variable with quoted text. -/
def joinLines (lines : List SourceLine) : List Nat :=
  ((codeLines lines).filter fun l => joinedVariable.occurs l.raw).map (·.number)

/-- The advice of the language. -/
def advice : List Advice :=
  [ .ofPattern longArray 3 fun n =>
      ⟨.modernize, .low, s!"{n} array() constructors; use the short [] syntax",
        { maintainabilityImprovement := some 1 }⟩,
    .ofPattern mysqlCall 1 fun n =>
      ⟨.modernize, .high, s!"{n} mysql_* calls; migrate data access to PDO",
        { maintainabilityImprovement := some 10 }⟩,
    fun lines => Advice.ofLines 2 (joinLines lines) fun n =>
      ⟨.modernize, .low,
        s!"{n} strings concatenated around variables; use " ++
          "\"\x7b$var\x7d\" interpolation",
        { maintainabilityImprovement := some 2 }⟩ ]

end SourceReview.Php
