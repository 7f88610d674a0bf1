import SourceReview.Text.Blank
import SourceReview.Text.Word

/-!
# Patterns

A pattern describes pieces of one line of text. Patterns are data: rules list them, and one function
(`Pattern.runs`) says what each of them matches. Alternatives are ordered, and repetition prefers
more over less unless it is lazy, so that a pattern has one preferred match at every position.
-/

namespace SourceReview

/-- The parts of a match that a rule asks for by name. -/
inductive Part where
  /-- The name that a declaration introduces. -/
  | name
  /-- The words in front of a declaration. -/
  | modifiers
  /-- The mark of an asynchronous function. -/
  | asyncMark
  /-- The type that a method returns. -/
  | returnType
  /-- The type that a method belongs to. -/
  | receiver
  /-- The module that an import names. -/
  | module
  /-- A comma-separated list of names. -/
  | names
  /-- A comparison operator. -/
  | operator
  deriving DecidableEq, Repr

/-- A description of pieces of text. -/
inductive Pattern where
  /-- The empty piece. -/
  | empty
  /-- One character of a class. -/
  | char (ok : Char → Bool)
  /-- A piece of the first kind, then one of the second. -/
  | seq (p q : Pattern)
  /-- A piece of the first kind or, failing that, of the second. -/
  | alt (p q : Pattern)
  /-- Any number of pieces, as many as possible. -/
  | many (p : Pattern)
  /-- Any number of pieces, as few as possible. -/
  | manyLazy (p : Pattern)
  /-- A piece that is remembered under a name. -/
  | part (which : Part) (p : Pattern)
  /-- The place before the first character. -/
  | atStart
  /-- The place after the last character. -/
  | atEnd
  /-- A place between a word character and a place or character that is none. -/
  | boundary

namespace Pattern

instance : Append Pattern := ⟨seq⟩

instance : OrElse Pattern := ⟨fun p q => alt p (q ())⟩

/-- The characters of a text, one after the other. -/
def chars : List Char → Pattern
  | [] => empty
  | [c] => char (· == c)
  | c :: cs => seq (char (· == c)) (chars cs)

/-- Exactly the text `s`. -/
def lit (s : String) : Pattern := chars s.toList

/-- One of the patterns, the first that matches. -/
def oneOf : List Pattern → Pattern
  | [] => char fun _ => false
  | [p] => p
  | p :: ps => alt p (oneOf ps)

/-- One of the texts, the first that matches. -/
def words (ss : List String) : Pattern := oneOf (ss.map lit)

/-- One of the texts, standing as a word of its own. -/
def keyword (ss : List String) : Pattern := boundary ++ words ss ++ boundary

/-- One of the characters of `s`. -/
def among (s : String) : Pattern := char fun c => s.toList.contains c

/-- A character that is not among those of `s`. -/
def except (s : String) : Pattern := char fun c => !s.toList.contains c

/-- Any character. -/
def any : Pattern := char fun _ => true

/-- The pattern or nothing. -/
def opt (p : Pattern) : Pattern := alt p empty

/-- At least one piece, as many as possible. -/
def many1 (p : Pattern) : Pattern := seq p (many p)

/-- At least one piece, as few as possible. -/
def many1Lazy (p : Pattern) : Pattern := seq p (manyLazy p)

/-- A blank. -/
def blank : Pattern := char Text.isBlank

/-- Any number of blanks. -/
def blanks : Pattern := many blank

/-- At least one blank. -/
def gap : Pattern := many1 blank

/-- A word character. -/
def word : Pattern := char Text.isWord

/-- A letter of the ASCII block or an underscore. -/
def nameStart : Pattern := char fun c => c.isAlpha || c == '_'

/-- A letter or digit of the ASCII block or an underscore. -/
def plainNameChar : Pattern := char fun c => c.isAlphanum || c == '_'

/-- A name whose characters all come from the ASCII block. -/
def plainName : Pattern := nameStart ++ many plainNameChar

/-- A name that begins with a letter of the ASCII block or an underscore and goes on with word
characters. -/
def name : Pattern := nameStart ++ many word

/-- A quotation mark, single or double. -/
def quote : Pattern := among "'\""

/-- A piece of text between quotation marks, remembered under a name. -/
def quotedPart (which : Part) : Pattern := quote ++ part which (many1 (except "'\"")) ++ quote

end Pattern

end SourceReview
