import SourceReview.Text.Segment

/-!
# Comment styles

A language marks comments in two ways: a comment to the end of the line, and a comment between an
opening and a closing mark.
-/

namespace SourceReview

/-- The marks around a block comment. -/
structure BlockMark where
  opening : List Char
  closing : List Char
  deriving DecidableEq, Repr

/-- How a language marks its comments. -/
structure CommentStyle where
  /-- Marks of a comment that ends with its line. -/
  line : List (List Char)
  block : List BlockMark
  deriving DecidableEq, Repr

namespace CommentStyle

/-- Two slashes, and slash-star blocks. -/
def slashes : CommentStyle := ⟨["//".toList], [⟨"/*".toList, "*/".toList⟩]⟩

/-- A hash sign, and texts between triple quotation marks that begin a line. -/
def hashes : CommentStyle :=
  ⟨["#".toList], [⟨"\"\"\"".toList, "\"\"\"".toList⟩, ⟨"'''".toList, "'''".toList⟩]⟩

/-- Two slashes or a hash sign, and slash-star blocks. -/
def slashesAndHashes : CommentStyle :=
  ⟨["//".toList, "#".toList], [⟨"/*".toList, "*/".toList⟩]⟩

/-- Whether `cs` begins with a comment to the end of the line. -/
def beginsLineComment (style : CommentStyle) (cs : List Char) : Bool :=
  style.line.any (Text.startsWith cs)

/-- The marks of the block comment that `cs` begins with. -/
def blockAt? (style : CommentStyle) (cs : List Char) : Option BlockMark :=
  style.block.find? fun mark => Text.startsWith cs mark.opening

/-- The marks of the block comment that `cs` begins with, where `cs` stands in the middle of a line.
Equal opening and closing marks are quotation marks there. -/
def inlineBlockAt? (style : CommentStyle) (cs : List Char) : Option BlockMark :=
  style.block.find? fun mark => mark.opening != mark.closing && Text.startsWith cs mark.opening

end CommentStyle

end SourceReview
