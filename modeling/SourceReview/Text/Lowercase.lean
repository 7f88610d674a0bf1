import SourceReview.Text.CaseMap
import SourceReview.Text.Cased

/-!
# Lowercase texts

The lowercase form of a text is the concatenation of the forms of its characters, except that a
capital sigma takes its final form at the end of a word.
-/

namespace SourceReview.Text

/-- Whether the first character of `cs` that is not case-ignorable is cased. -/
def casedNext (cs : List Char) : Bool :=
  match cs.dropWhile isCaseIgnorable with
  | c :: _ => isCased c
  | [] => false

/-- The lowercase form of a capital sigma, given the text before it in reverse order and the text
after it. -/
def lowerSigma (before after : List Char) : Char :=
  if casedNext before && !casedNext after then 'ς' else 'σ'

/-- The lowercase form of a text that follows `before`, which is given in reverse order. -/
def lowerAfter (before : List Char) : List Char → List Char
  | [] => []
  | c :: cs =>
    (if c == 'Σ' then [lowerSigma before cs] else lowerForm c) ++ lowerAfter (c :: before) cs

/-- The lowercase form of `s`. -/
def lowercase (s : String) : String := String.ofList (lowerAfter [] s.toList)

/-- Whether two texts are equal when the letters of the ASCII block are compared without regard to
their case. -/
def eqIgnoringAsciiCase (s t : String) : Bool :=
  s.toList.map Char.toLower == t.toList.map Char.toLower

end SourceReview.Text
