import SourceReview.Advice.Go
import SourceReview.Advice.Java
import SourceReview.Advice.Php
import SourceReview.Advice.Python
import SourceReview.Advice.Script
import SourceReview.Language.Basic
import SourceReview.Rules.Go
import SourceReview.Rules.Java
import SourceReview.Rules.Python

/-!
# The known languages
-/

namespace SourceReview.Language

/-- The description of Python. -/
def python : Language where
  id := "python"
  extensions := ["py", "pyw", "pyi"]
  comments := .hashes
  weights := Python.weights
  upkeep := Python.upkeep
  thresholds :=
    { complexity := some (.graded ⟨5, 10, 15, 25⟩)
      maintainability := some (.graded ⟨20, 40, 70⟩) }
  outline := Python.outline
  rules := Python.rules
  advice := Python.advice

/-- The thresholds of JavaScript and TypeScript. -/
def scriptThresholds : Thresholds :=
  { complexity := some (.graded ⟨5, 10, 20, 30⟩), maintainability := some (.single 40) }

/-- The description of JavaScript. -/
def javascript : Language where
  id := "javascript"
  extensions := ["js", "jsx", "mjs", "cjs"]
  comments := .slashes
  weights := Script.weights
  upkeep := Script.upkeep
  thresholds := scriptThresholds
  outline := Script.outline
  rules := Script.rules
  advice := Script.advice
  complexityLimit := 20

/-- The description of TypeScript. -/
def typescript : Language where
  id := "typescript"
  extensions := ["ts", "tsx", "mts", "cts"]
  comments := .slashes
  weights := Script.weights
  upkeep := Script.upkeep
  thresholds := scriptThresholds
  outline := Script.outline
  rules := Script.typedRules
  advice := Script.typedAdvice
  complexityLimit := 20

/-- The description of Java. -/
def java : Language where
  id := "java"
  extensions := ["java"]
  comments := .slashes
  weights := Java.weights
  upkeep := Java.upkeep
  thresholds := { complexity := some (.single 15) }
  outline := Java.outline
  rules := Java.rules
  advice := Java.advice
  wantedComments := 15

/-- The description of PHP. -/
def php : Language where
  id := "php"
  extensions := ["php", "phtml"]
  comments := .slashesAndHashes
  weights := Php.weights
  upkeep := Php.upkeep
  thresholds := { complexity := some (.graded ⟨5, 10, 15, 25⟩) }
  outline := Php.outline
  rules := Php.rules
  advice := Php.advice

/-- The description of Go. -/
def go : Language where
  id := "go"
  extensions := ["go"]
  comments := .slashes
  weights := Go.weights
  upkeep := Go.upkeep
  thresholds := { complexity := some (.graded ⟨5, 10, 15, 20⟩) }
  outline := Go.outline
  rules := Go.rules
  advice := Go.advice

/-- The known languages. -/
def known : List Language := [python, javascript, typescript, java, php, go]

/-- The known language with a given name. -/
def known? (id : String) : Option Language := known.find? (·.id == id)

end SourceReview.Language
