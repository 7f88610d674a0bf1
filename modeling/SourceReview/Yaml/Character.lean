/-!
# Characters of YAML

Which characters may stand in a text, and which of them separate words and lines.
-/

namespace SourceReview.Yaml

/-- Whether a character ends a line. -/
def isBreak (c : Char) : Bool := c == '\n' || c == '\u2028' || c == '\u2029'

/-- Whether a character separates words. -/
def isSpace (c : Char) : Bool := c == ' ' || c == '\t'

/-- Whether a text begins with a space or a line break, or is empty. -/
def isGap (cs : List Char) : Bool :=
  match cs with
  | [] => true
  | c :: _ => isSpace c || isBreak c

/-- Whether a character is among those of `s`. -/
def isOneOf (s : String) (c : Char) : Bool := s.toList.contains c

/-- Whether a character may stand in a text. Most controls may not. -/
def isAllowed (c : Char) : Bool :=
  let n := c.toNat
  n == 0x9 || n == 0xA || n == 0xD || (0x20 ≤ n && n ≤ 0x7E) || n == 0x85 ||
    (0xA0 ≤ n && n ≤ 0xD7FF) || (0xE000 ≤ n && n ≤ 0xFFFD) || 0x10000 ≤ n

/-- The text with the same mark at the end of every line, whichever of the common marks it has. -/
def unifyBreaks : List Char → List Char
  | '\r' :: '\n' :: cs => '\n' :: unifyBreaks cs
  | c :: cs => (if c == '\r' || c == '\u0085' then '\n' else c) :: unifyBreaks cs
  | [] => []

/-- The text without a byte order mark at its beginning. -/
def dropOrderMark : List Char → List Char
  | '\ufeff' :: cs => cs
  | cs => cs

/-- The text in the form in which it is read, if all its characters are allowed. The mark of the
encoding and one more byte order mark are dropped. -/
def prepare? (cs : List Char) : Option (List Char) :=
  if cs.all isAllowed then some (unifyBreaks (dropOrderMark (dropOrderMark cs))) else none

/-- A place in a text: the characters before it, and its line and column, all counted from zero. -/
structure Place where
  index : Nat := 0
  line : Nat := 0
  column : Nat := 0
  deriving DecidableEq, Repr

/-- The place after a character. -/
def Place.next (p : Place) (c : Char) : Place :=
  if isBreak c then ⟨p.index + 1, p.line + 1, 0⟩ else ⟨p.index + 1, p.line, p.column + 1⟩

/-- The place after several characters. -/
def Place.after (p : Place) (cs : List Char) : Place := cs.foldl Place.next p

/-- A place with the text that follows it. -/
structure Cursor where
  place : Place := {}
  rest : List Char
  deriving Repr

/-- Whether a text begins with one of the two marks between documents. -/
def isDocumentMark (cs : List Char) : Bool :=
  match cs with
  | a :: b :: c :: cs => a == b && b == c && (a == '-' || a == '.') && isGap cs
  | _ => false

end SourceReview.Yaml
