import SourceReview.Text.CaseMap

/-!
# Naming conventions

The spellings of names that the rules ask for, and the conversion of a name to each of them.
-/

namespace SourceReview.Naming

/-- Whether a name is a capital letter followed by no underscore. -/
def isPascalCase (name : List Char) : Bool :=
  name.head?.any Char.isUpper && !name.contains '_'

/-- Whether a name is a small letter followed by no underscore. -/
def isCamelCase (name : List Char) : Bool :=
  name.head?.any Char.isLower && !name.contains '_'

/-- Whether a capital letter begins a word, given its neighbours: it does after anything else than
a capital or an underscore, and in a run of capitals if a small letter follows. -/
def beginsWord (prev next : Option Char) : Bool :=
  match prev with
  | none => false
  | some p => if p = '_' then false else if p.isUpper then next.any Char.isLower else true

/-- A name that follows the character `prev`, in words of small letters joined by underscores. The
name has only characters of the ASCII block. -/
def snakeFrom (prev : Option Char) : List Char → List Char
  | [] => []
  | c :: cs =>
    if c.isUpper then
      (if beginsWord prev cs.head? then ['_', c.toLower] else [c.toLower]) ++ snakeFrom (some c) cs
    else c :: snakeFrom (some c) cs

/-- A name in words of small letters joined by underscores, where a run of capitals is one word. -/
def toSnakeCase (name : List Char) : List Char := snakeFrom none name

/-- What is left of a name without its underscores, the words after the first beginning with
capitals. `blank` tells whether nothing has been written yet, and `raise` whether the next character
is to be a capital. -/
def mixedFrom (blank raise : Bool) : List Char → List Char
  | [] => []
  | c :: cs =>
    if c = '_' then mixedFrom blank (!blank) cs
    else if raise then Text.upperForm c ++ mixedFrom false false cs
    else c :: mixedFrom false false cs

/-- A name without underscores, the words after the first beginning with capitals. The first
character keeps its case. -/
def toMixedCaps (name : List Char) : List Char := mixedFrom true false name

/-- What is left of a name without its underscores, the words after the first beginning with
capitals and the first with a small letter. `start` tells whether no character has been read yet,
`blank` whether nothing has been written yet, and `raise` whether the next character is to be a
capital. -/
def camelFrom (start blank raise : Bool) : List Char → List Char
  | [] => []
  | c :: cs =>
    if c = '_' then camelFrom false blank (!start) cs
    else if raise then Text.upperForm c ++ camelFrom false false false cs
    else if blank then Text.lowerForm c ++ camelFrom false false false cs
    else c :: camelFrom false false false cs

/-- A name without underscores, in words that begin with capitals except for the first. Only the
first of several underscores at the beginning is without effect on the letter after them. -/
def toCamelCase (name : List Char) : List Char := camelFrom true true false name

end SourceReview.Naming
