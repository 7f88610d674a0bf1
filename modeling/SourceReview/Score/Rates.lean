import SourceReview.Score.Complexity
import SourceReview.Score.Upkeep

/-!
# Weights and rates of the languages

Which branch points each language counts, and how fast it loses maintainability.
-/

namespace SourceReview

open Score Pattern

/-- The two logical operators. -/
def logicalOperator : Pattern := lit "&&" <|> lit "||"

namespace Python

/-- Branches, logical operators, and anonymous or awaited functions. -/
def weights : List Weight :=
  [{ pattern := keyword ["if", "elif", "for", "while", "except", "case"], halves := 2 },
    { pattern := keyword ["and", "or"], halves := 1 },
    { pattern := keyword ["lambda", "await"], halves := 1 }]

/-- Comments count double: they cost when missing and bring when plenty. -/
def upkeep : Upkeep where
  complexityRate := 1.5
  complexityCap := 40
  functionLength := 20
  lengthRate := 0.5
  linesPerPoint := none
  comments := ⟨15, 0.5, some (0.2, 10)⟩
  countsDependencies := true

end Python

namespace Script

/-- Branches, logical operators and conditional expressions. -/
def weights : List Weight :=
  [{ pattern := keyword ["if", "for", "while", "case", "catch"], halves := 2 },
    { pattern := logicalOperator, halves := 1 },
    { pattern := except "?" ++ lit "?" ++ blank, halves := 1 }]

/-- Twelve points for ten units of complexity, and one for fifty lines. -/
def upkeep : Upkeep where
  complexityRate := 1.2
  complexityCap := 40
  functionLength := 25
  lengthRate := 0.4
  linesPerPoint := some 50
  comments := ⟨10, 0.5, none⟩

end Script

namespace Java

/-- Branches, logical operators, and conditional expressions in lines without angle brackets, which
may be wildcards of generic types. -/
def weights : List Weight :=
  [{ pattern := keyword ["if", "for", "while", "case", "catch"], halves := 2 },
    { pattern := logicalOperator, halves := 1 },
    { pattern := lit "?" ++ blanks ++ char (fun c => !(c == '>' || Text.isBlank c)), halves := 1,
      counts := fun code => !code.contains '<' }]

/-- One point for each unit of complexity, and one for sixty lines. -/
def upkeep : Upkeep where
  complexityRate := 1
  complexityCap := 40
  functionLength := 30
  lengthRate := 0.4
  linesPerPoint := some 60
  comments := ⟨15, 0.4, none⟩

end Java

namespace Php

/-- Branches, logical operators in both spellings, and conditional expressions. -/
def weights : List Weight :=
  [{ pattern := keyword ["if", "elseif", "for", "foreach", "while", "case", "catch", "match"],
     halves := 2 },
    { pattern := logicalOperator <|> keyword ["and"] <|> keyword ["or"], halves := 1 },
    { pattern :=
        lit "?" ++ blanks ++ char (fun c => !("?>:".toList.contains c || Text.isBlank c)) <|>
          lit "??",
      halves := 1 }]

/-- Fifteen points for ten units of complexity, and one for forty lines. -/
def upkeep : Upkeep where
  complexityRate := 1.5
  complexityCap := 45
  functionLength := 25
  lengthRate := 0.5
  linesPerPoint := some 40
  comments := ⟨10, 0.5, none⟩

end Php

namespace Go

/-- Branches and logical operators. -/
def weights : List Weight :=
  [{ pattern := keyword ["if", "for", "case", "select"], halves := 2 },
    { pattern := logicalOperator, halves := 1 }]

/-- Twelve points for ten units of complexity, and one for sixty lines. -/
def upkeep : Upkeep where
  complexityRate := 1.2
  complexityCap := 40
  functionLength := 30
  lengthRate := 0.4
  linesPerPoint := some 60
  comments := ⟨10, 0.4, none⟩

end Go

end SourceReview
