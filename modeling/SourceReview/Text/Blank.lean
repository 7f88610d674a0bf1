/-!
# Blanks

The white space characters, and the trimming of texts by them.
-/

namespace SourceReview.Text

/-- Whether `c` is white space: the five layout controls, the space and next-line characters, and
the wide and narrow spaces and separators. -/
def isBlank (c : Char) : Bool :=
  c == ' ' || (9 ≤ c.toNat && c.toNat ≤ 13) ||
    (128 ≤ c.toNat &&
      (c.toNat == 0x85 || c.toNat == 0xA0 || c.toNat == 0x1680 ||
        (0x2000 ≤ c.toNat && c.toNat ≤ 0x200A) || c.toNat == 0x2028 || c.toNat == 0x2029 ||
        c.toNat == 0x202F || c.toNat == 0x205F || c.toNat == 0x3000))

/-- `cs` without its longest beginning whose characters all satisfy `p`. -/
def dropLeading (p : Char → Bool) (cs : List Char) : List Char := cs.dropWhile p

/-- `cs` without its longest ending whose characters all satisfy `p`. -/
def dropTrailing (p : Char → Bool) (cs : List Char) : List Char := (cs.reverse.dropWhile p).reverse

/-- `cs` without blanks at its beginning. -/
def trimStart (cs : List Char) : List Char := dropLeading isBlank cs

/-- `cs` without blanks at its end. -/
def trimEnd (cs : List Char) : List Char := dropTrailing isBlank cs

/-- `cs` without blanks at either end. -/
def trim (cs : List Char) : List Char := trimEnd (trimStart cs)

end SourceReview.Text
