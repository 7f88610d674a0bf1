import SourceReview.Advice.Basic
import SourceReview.Listing.Block

/-!
# Python advice
-/

namespace SourceReview.Python

open Pattern

/-- The head of a loop over a collection. -/
def loopHead : Pattern :=
  atStart ++ blanks ++ lit "for" ++ gap ++ many1 any ++ gap ++ lit "in" ++ gap ++ many1 any ++
    lit ":" ++ blanks ++ atEnd

/-- A call that appends to a list. -/
def appendCall : Pattern :=
  atStart ++ blanks ++ nameStart ++ many (char fun c => c.isAlphanum || c == '_' || c == '.') ++
    lit ".append("

/-- Text that is added to a variable. -/
def textAppend : Pattern :=
  plainName ++ blanks ++ lit "+=" ++ blanks ++ (opt (lit "f") ++ quote <|> lit "str(")

/-- Text with values filled in by an operator or a method. -/
def oldFormat : Pattern :=
  quote ++ blanks ++ lit "%" ++ blanks ++ char (fun c => Text.isWord c || c == '(') <|>
    lit ".format("

/-- The number of the first of `lines`, if it begins a loop that does nothing but append. -/
def appendLoop? (line : SourceLine) (lines : List SourceLine) : Option Nat :=
  if loopHead.occurs line.code then
    match codeLines ((lines.drop 1).take (indentSpan lines)) with
    | [only] => if appendCall.occurs only.code then some line.number else none
    | _ => none
  else none

/-- The advice of the language. -/
def advice : List Advice :=
  [ fun lines => Advice.ofLines 2 ((eachCode appendLoop? lines).filterMap id) fun n =>
      ⟨.modernize, .low, s!"{n} loops only append to a list; use list comprehensions",
        { complexityReduction := some (Float.ofNat n), maintainabilityImprovement := some 3 }⟩,
    .ofPattern textAppend 3 fun n =>
      ⟨.optimize, .medium,
        s!"{n} string concatenations with +=; collect parts and use ''.join()",
        { performanceImprovement := some "avoids quadratic string copying" }⟩,
    .ofPattern oldFormat 2 fun n =>
      ⟨.modernize, .low, s!"{n} uses of %-formatting or str.format(); use f-strings",
        { maintainabilityImprovement := some 2 }⟩ ]

end SourceReview.Python
