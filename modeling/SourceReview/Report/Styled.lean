import SourceReview.Text.Padded

/-!
# Styled texts

A text for the terminal is made of pieces, some of which have a style. Styles are written as control
sequences around a piece, or left out where colors are not wanted; either way the piece is filled up
to its width.
-/

namespace SourceReview

/-- The style of a piece: the codes of its attributes and its color. -/
structure PieceStyle where
  codes : List Nat
  deriving DecidableEq, Repr

namespace PieceStyle

/-- Bold. -/
def bold : PieceStyle := ⟨[1]⟩

/-- Dimmed. -/
def dimmed : PieceStyle := ⟨[2]⟩

/-- Red. -/
def red : PieceStyle := ⟨[31]⟩

/-- Bold red. -/
def boldRed : PieceStyle := ⟨[1, 31]⟩

/-- Green. -/
def green : PieceStyle := ⟨[32]⟩

/-- Bold green. -/
def boldGreen : PieceStyle := ⟨[1, 32]⟩

/-- Yellow. -/
def yellow : PieceStyle := ⟨[33]⟩

/-- Bold yellow. -/
def boldYellow : PieceStyle := ⟨[1, 33]⟩

/-- Blue. -/
def blue : PieceStyle := ⟨[34]⟩

/-- Bold blue. -/
def boldBlue : PieceStyle := ⟨[1, 34]⟩

/-- Cyan. -/
def cyan : PieceStyle := ⟨[36]⟩

/-- Bold cyan. -/
def boldCyan : PieceStyle := ⟨[1, 36]⟩

/-- The control sequence that begins a style. -/
def start (style : PieceStyle) : String :=
  "\x1b[" ++ ";".intercalate (style.codes.map toString) ++ "m"

end PieceStyle

/-- The control sequence that ends a style. -/
def styleEnd : String := "\x1b[0m"

/-- The text with `start` inserted after every end of a style. -/
def restyled (start : List Char) : List Char → List Char
  | '\x1b' :: '[' :: '0' :: 'm' :: cs => styleEnd.toList ++ start ++ restyled start cs
  | c :: cs => c :: restyled start cs
  | [] => []

/-- A piece of a text for the terminal. -/
inductive Piece where
  | plain (text : String)
  /-- A text in a style, filled up to a width. -/
  | styled (style : PieceStyle) (width : Nat) (text : String)
  deriving Repr

/-- The characters of a piece, with or without colors. A style that ends inside a styled text begins
again after it. -/
def Piece.render (color : Bool) : Piece → String
  | .plain text => text
  | .styled style width text =>
    if color then
      style.start ++
        Text.padded width (String.ofList (restyled style.start.toList text.toList)) ++ styleEnd
    else Text.padded width text

/-- The characters of several pieces. -/
def Piece.renderAll (color : Bool) (pieces : List Piece) : String :=
  String.join (pieces.map (Piece.render color))

end SourceReview
