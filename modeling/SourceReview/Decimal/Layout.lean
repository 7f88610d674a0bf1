import SourceReview.Decimal.Shortest

/-!
# Written numbers

Two ways of writing a double by its shortest digits, and the writing with a fixed number of places.
-/

namespace SourceReview.Decimal

/-- The decimal digits of a natural number. -/
def digitsOf (n : Nat) : List Char := Nat.toDigits 10 n

/-- How a writing of doubles by their shortest digits is laid out. -/
structure Style where
  tie : Tie
  /-- The least and the greatest power of ten that a number written without exponent may begin
  with; without a bound there is never an exponent. -/
  positional : Option (Int × Int)
  /-- Written after a number that has no fraction. -/
  wholeSuffix : List Char
  /-- The sign of a positive exponent. -/
  exponentPlus : List Char

/-- Digits without trailing zeros, of which one is kept if there is nothing else. -/
def stripZeros (ds : List Char) : List Char :=
  match (ds.reverse.dropWhile (· == '0')).reverse with
  | [] => ['0']
  | kept => kept

/-- The significant digits `ds`, of which the first stands for `10 ^ lead`, without exponent. -/
def positionalText (suffix : List Char) (ds : List Char) (lead : Int) : List Char :=
  if lead < 0 then '0' :: '.' :: List.replicate (-lead - 1).toNat '0' ++ ds
  else
    let whole := lead.toNat + 1
    if ds.length ≤ whole then ds ++ List.replicate (whole - ds.length) '0' ++ suffix
    else ds.take whole ++ '.' :: ds.drop whole

/-- The significant digits `ds`, of which the first stands for `10 ^ lead`, with exponent. -/
def exponentText (plus : List Char) (ds : List Char) (lead : Int) : List Char :=
  let mantissa :=
    match ds with
    | d :: (e :: es) => d :: '.' :: e :: es
    | ds => ds
  mantissa ++ 'e' ::
    ((if lead < 0 then ['-'] else plus) ++ digitsOf lead.natAbs)

/-- A finite double in a given style. -/
def Style.finiteText (style : Style) (b : Binary) : String :=
  let sign := if b.negative then ['-'] else []
  let body :=
    if b.mantissa == 0 then '0' :: style.wholeSuffix
    else
      let d := shortest style.tie b
      let all := digitsOf d.digits
      let lead := d.exponent + all.length - 1
      let ds := stripZeros all
      match style.positional with
      | some (least, greatest) =>
        if least ≤ lead && lead ≤ greatest then positionalText style.wholeSuffix ds lead
        else exponentText style.exponentPlus ds lead
      | none => positionalText style.wholeSuffix ds lead
  String.ofList (sign ++ body)

/-- A double in a given style, with a word if it is not finite. -/
def Style.text (style : Style) (x : Float) : String :=
  match valueOf x with
  | .finite b => style.finiteText b
  | .infinite negative => if negative then "-inf" else "inf"
  | .nan => "NaN"

/-- Numbers in messages have no exponent, and whole numbers no fraction. -/
def messageStyle : Style := ⟨.up, none, [], []⟩

/-- A number as it stands in a message. -/
def messageText (x : Float) : String := messageStyle.text x

/-- A number with a fixed number of places after the point, a tie of the exact value going to the
even neighbour. -/
def fixedText (places : Nat) (x : Float) : String :=
  match valueOf x with
  | .nan => "NaN"
  | .infinite negative => if negative then "-inf" else "inf"
  | .finite b =>
    let (n, d) := scaleTwo (b.mantissa * tenTo places) b.exponent
    let ds := digitsOf (roundHalfEven n d)
    let ds := List.replicate (places + 1 - ds.length) '0' ++ ds
    let whole := ds.length - places
    let sign := if b.negative then ['-'] else []
    let fraction := if places == 0 then [] else '.' :: ds.drop whole
    String.ofList (sign ++ ds.take whole ++ fraction)

end SourceReview.Decimal
