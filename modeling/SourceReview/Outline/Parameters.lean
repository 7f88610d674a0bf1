import SourceReview.Text.Blank
import SourceReview.Text.Segment

/-!
# Parameter lists

The parameters of a function are the items between the first parenthesis of its signature and the
one that closes it. Brackets of every kind, angle brackets included, group what they hold.
-/

namespace SourceReview.Parameters

/-- Whether `c` opens a group. -/
def isOpening (c : Char) : Bool := c == '(' || c == '[' || c == '\x7b' || c == '<'

/-- Whether `c` closes a group. -/
def isClosing (c : Char) : Bool := c == ')' || c == ']' || c == '\x7d' || c == '>'

/-- The items with `c` in front of the first. -/
def consFirst (c : Char) : List (List Char) → List (List Char)
  | [] => [[c]]
  | item :: items => (c :: item) :: items

/-- The items of a list that is `depth + 1` groups deep, up to the bracket that closes it. The depth
is without bounds. Counted in 32 bits it is the same in every signature with fewer than 2^31
brackets. -/
def items : Nat → List Char → List (List Char)
  | _, [] => [[]]
  | depth, c :: cs =>
    if isOpening c then consFirst c (items (depth + 1) cs)
    else if isClosing c then
      match depth with
      | 0 => [[]]
      | outer + 1 => consFirst c (items outer cs)
    else if c == ',' && depth == 0 then [] :: items depth cs
    else consFirst c (items depth cs)

/-- The name that an item begins with. -/
def leadingName (item : List Char) : List Char :=
  item.takeWhile fun c => !(c == ':' || c == '=' || Text.isBlank c)

/-- Whether an item is a parameter: it is not empty, and its name is none of those to ignore. -/
def isParameter (ignore : List (List Char)) (item : List Char) : Bool :=
  let trimmed := Text.trim item
  !trimmed.isEmpty && !ignore.contains (leadingName trimmed)

/-- The number of parameters in a signature, without those whose names are to be ignored. -/
def count (ignore : List (List Char)) (signature : List Char) : Nat :=
  match Text.splitFirst ['('] signature with
  | none => 0
  | some (_, inside) => (items 0 inside).countP (isParameter ignore)

end SourceReview.Parameters
