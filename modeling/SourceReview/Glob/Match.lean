import SourceReview.Glob.Basic

/-!
# Paths that a glob matches

Globs match paths byte by byte: a question mark and a class stand for one byte, and a character that
takes several bytes for all of them in order.
-/

namespace SourceReview

/-- The bytes of a character. -/
def bytesOf (c : Char) : List UInt8 := c.toString.toUTF8.toList

/-- What follows the bytes `head` in `bs`. -/
def afterBytes? : List UInt8 → List UInt8 → Option (List UInt8)
  | [], bs => some bs
  | _ :: _, [] => none
  | h :: hs, b :: bs => if h = b then afterBytes? hs bs else none

/-- The bytes of a list after each of its positions. -/
def tails : List UInt8 → List (List UInt8)
  | [] => [[]]
  | b :: bs => (b :: bs) :: tails bs

/-- The bytes of a list after each slash. -/
def afterSlashes : List UInt8 → List (List UInt8)
  | [] => []
  | b :: bs => if b = 47 then bs :: afterSlashes bs else afterSlashes bs

/-- Whether a byte is in the range between two characters. Of a character of several bytes the last
one begins a range and the first one ends it; its other bytes stand for themselves. -/
def inByteRange (b : UInt8) (range : Char × Char) : Bool :=
  let first := bytesOf range.1
  let last := bytesOf range.2
  if range.1 = range.2 then first.contains b
  else
    first.dropLast.contains b || (last.drop 1).contains b ||
      ((first.getLast?.any (· ≤ b)) && (last.head?.any (b ≤ ·)))

namespace GlobPart

mutual

/-- What may be left of `bs` after a part has matched its beginning. -/
def rests : GlobPart → List UInt8 → List (List UInt8)
  | .literal c, bs => (afterBytes? (bytesOf c) bs).toList
  | .any, bs =>
    match bs with
    | [] => []
    | _ :: bs => [bs]
  | .anything, bs => tails bs
  | .leadingDirs, bs => bs :: afterSlashes bs
  | .trailingDirs, bs =>
    match bs with
    | [] => []
    | b :: bs => if b = 47 then tails bs else []
  | .innerDirs, bs =>
    match bs with
    | [] => []
    | b :: bs => if b = 47 then bs :: afterSlashes bs else []
  | .oneOf negated ranges, bs =>
    match bs with
    | [] => []
    | b :: bs => if ranges.any (inByteRange b) != negated then [bs] else []
  | .choice branches, bs =>
    if isHollow branches then [bs] else choiceRests branches bs

/-- What may be left after several parts have matched one after the other. -/
def sequenceRests : List GlobPart → List UInt8 → List (List UInt8)
  | [], bs => [bs]
  | p :: ps, bs => ((p.rests bs).flatMap (sequenceRests ps)).eraseDups

/-- What may be left after one of several alternatives has matched. An empty one is no
alternative. -/
def choiceRests : List (List GlobPart) → List UInt8 → List (List UInt8)
  | [], _ => []
  | ps :: branches, bs =>
    (if isEmptyBranch ps then [] else sequenceRests ps bs) ++ choiceRests branches bs

/-- Whether an alternative holds nothing that could match. -/
def isEmptyBranch : List GlobPart → Bool
  | [] => true
  | .choice branches :: ps => isHollow branches && isEmptyBranch ps
  | _ :: _ => false

/-- Whether all alternatives are empty. -/
def isHollow : List (List GlobPart) → Bool
  | [] => true
  | ps :: branches => isEmptyBranch ps && isHollow branches

end

/-- Whether a part is a literal character. -/
def isLiteral : GlobPart → Bool
  | .literal _ => true
  | _ => false

/-- Whether a part is a given character. -/
def isChar (c : Char) : GlobPart → Bool
  | .literal d => c == d
  | _ => false

end GlobPart

namespace Glob

/-- Whether the glob is a fixed text after any number of directories, any text, or both. -/
def isEnding (parts : List GlobPart) : Bool :=
  match parts with
  | .leadingDirs :: .anything :: ps => ps.all (·.isLiteral)
  | .leadingDirs :: ps => ps.all (·.isLiteral) && ps.any (·.isChar '/')
  | .anything :: ps => ps.all (·.isLiteral)
  | ps => ps.all (·.isLiteral)

/-- Whether the glob asks for an extension after any name. -/
def isExtension (parts : List GlobPart) : Bool :=
  match parts with
  | [.leadingDirs, .anything, .literal '.'] => true
  | [.anything, .literal '.'] => true
  | _ => false

/-- Whether the glob is matched by the name at the end of a path. Then a path that ends in a dot,
and so has no name, does not match. -/
def readsName (g : Glob) : Bool := isExtension g.parts || !isEnding g.parts

/-- Whether the glob matches the bytes of a path. -/
def matchesBytes (g : Glob) (path : List UInt8) : Bool :=
  match g.parts with
  | [.leadingDirs] => true
  | parts => (GlobPart.sequenceRests parts path).any (·.isEmpty)

/-- Whether a glob ends in a literal dot. -/
def endsInDot (g : Glob) : Bool := g.parts.getLast?.any (·.isChar '.')

/-- Whether the glob matches a path. -/
def isMatch (g : Glob) (path : String) : Bool :=
  !(g.endsInDot && g.readsName) && g.matchesBytes path.toUTF8.toList

/-- Whether one of several globs matches a path. -/
def anyMatch (globs : List Glob) (path : String) : Bool := globs.any (·.isMatch path)

end Glob

end SourceReview
