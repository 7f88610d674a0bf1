/-!
# Segments of a text

Finding one text inside another, and cutting a text at the places where another occurs.
-/

namespace SourceReview.Text

/-- What follows `head` in `cs`, if `cs` begins with `head`. -/
def after? : List Char → List Char → Option (List Char)
  | [], cs => some cs
  | _ :: _, [] => none
  | h :: hs, c :: cs => if h = c then after? hs cs else none

/-- Whether `cs` begins with `head`. -/
def startsWith (cs head : List Char) : Bool := (after? head cs).isSome

/-- Whether `cs` ends with `tail`. -/
def endsWith (cs tail : List Char) : Bool := (after? tail.reverse cs.reverse).isSome

/-- The text before and the text after the first occurrence of `mark` in `cs`. -/
def splitFirst (mark : List Char) : List Char → Option (List Char × List Char)
  | [] => (after? mark []).map (([], ·))
  | c :: cs =>
    match after? mark (c :: cs) with
    | some rest => some ([], rest)
    | none => (splitFirst mark cs).map fun (before, rest) => (c :: before, rest)

/-- Whether `mark` occurs in `cs`. -/
def occursIn (mark cs : List Char) : Bool := (splitFirst mark cs).isSome

/-- What follows the last occurrence of `mark` in `cs`, or all of `cs` if there is none. Occurrences
are counted from the left without overlap. -/
def afterLast (mark cs : List Char) : List Char :=
  go cs.length cs
where
  /-- Moves past one occurrence of `mark` at a time; each shortens the text, so its length bounds
  the number of steps. -/
  go : Nat → List Char → List Char
    | 0, cs => cs
    | n + 1, cs =>
      match splitFirst mark cs with
      | some (_, rest) => go n rest
      | none => cs

/-- The pieces of `cs` between the characters that satisfy `p`. -/
def splitBy (p : Char → Bool) : List Char → List (List Char)
  | [] => [[]]
  | c :: cs =>
    if p c then [] :: splitBy p cs
    else
      match splitBy p cs with
      | piece :: pieces => (c :: piece) :: pieces
      | [] => [[c]]

end SourceReview.Text
