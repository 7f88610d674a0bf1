/-!
# Lines of a text

A line ends at a line feed, or at the pair of a carriage return and a line feed. A carriage return
that stands elsewhere belongs to its line, and a text that ends in a line feed has no empty line
after it.
-/

namespace SourceReview.Text

/-- The lines of a text, without the characters that end them. -/
def lines : List Char → List (List Char)
  | [] => []
  | '\n' :: cs => [] :: lines cs
  | '\r' :: '\n' :: cs => [] :: lines cs
  | c :: cs =>
    match lines cs with
    | [] => [[c]]
    | line :: rest => (c :: line) :: rest

/-- The texts joined by line feeds. -/
def joinLines : List (List Char) → List Char
  | [] => []
  | [line] => line
  | line :: rest => line ++ '\n' :: joinLines rest

end SourceReview.Text
