import SourceReview.Decimal.Binary

/-!
# Numbers read from text

A decimal number is read as the double nearest to it. Numbers are digits with at most one point
among them, perhaps followed by a power of ten.
-/

namespace SourceReview.Decimal

/-- The number that decimal digits stand for. -/
def natOfDigits (ds : List Char) : Nat := ds.foldl (fun n d => 10 * n + (d.toNat - '0'.toNat)) 0

/-- The double nearest to `± digits · 10 ^ exponent`. Powers of ten far beyond the range of doubles
are not computed. -/
def ofScientific (negative : Bool) (digits : Nat) (exponent : Int) : Float :=
  let lead : Int := (Nat.toDigits 10 digits).length + exponent
  if digits == 0 || lead < -330 then nearest negative 0 1
  else if 310 < lead then nearest negative (tenTo 310) 1
  else if 0 ≤ exponent then nearest negative (digits * tenTo exponent.toNat) 1
  else nearest negative digits (tenTo (-exponent).toNat)

/-- The double nearest to an integer. -/
def ofInt (n : Int) : Float := nearest (n < 0) n.natAbs 1

/-- The parts of a written number: the digits before the point, those after it, and the power of ten
that follows them. -/
structure Numeral where
  whole : List Char
  /-- The digits after the point, if there is one. -/
  fraction : Option (List Char)
  /-- The sign and the digits of the exponent, if there is one. -/
  exponent : Option (Bool × List Char)

/-- The exponent at the beginning of a text, which is one only if digits follow. -/
def exponentAt? (cs : List Char) : Option (Bool × List Char) × List Char :=
  match cs with
  | e :: rest =>
    if e == 'e' || e == 'E' then
      let (negative, rest) :=
        match rest with
        | '-' :: rest => (true, rest)
        | '+' :: rest => (false, rest)
        | rest => (false, rest)
      (some (negative, rest.takeWhile Char.isDigit), rest.dropWhile Char.isDigit)
    else (none, cs)
  | [] => (none, cs)

/-- The parts of the number at the beginning of a text, and what follows it. Every part may lack its
digits. -/
def numeralAt (cs : List Char) : Numeral × List Char :=
  let whole := cs.takeWhile Char.isDigit
  let (fraction, rest) :=
    match cs.dropWhile Char.isDigit with
    | '.' :: rest => (some (rest.takeWhile Char.isDigit), rest.dropWhile Char.isDigit)
    | rest => (none, rest)
  let (exponent, rest) := exponentAt? rest
  (⟨whole, fraction, exponent⟩, rest)

/-- Whether the exponent of a numeral has digits, if there is one. -/
def Numeral.exponentHasDigits (n : Numeral) : Bool := n.exponent.all fun e => !e.2.isEmpty

/-- The double nearest to a numeral with a given sign. -/
def Numeral.value (negative : Bool) (n : Numeral) : Float :=
  let fraction := n.fraction.getD []
  let power : Int :=
    match n.exponent with
    | some (minus, ds) => if minus then -(natOfDigits ds : Int) else natOfDigits ds
    | none => 0
  ofScientific negative (natOfDigits (n.whole ++ fraction)) (power - fraction.length)

/-- The double that a text stands for: a numeral with digits before or after the point, or the name
of infinity or of the value that is not a number, in letters of either case; all with a sign or
without. -/
def parse? (cs : List Char) : Option Float :=
  let (negative, body) :=
    match cs with
    | '-' :: body => (true, body)
    | '+' :: body => (false, body)
    | body => (false, body)
  let word := String.ofList (body.map Char.toLower)
  if word = "inf" || word = "infinity" then some (nearest negative (tenTo 310) 1)
  else if word = "nan" then some (0 / 0)
  else
    let (n, rest) := numeralAt body
    if rest.isEmpty && n.exponentHasDigits && !(n.whole ++ n.fraction.getD []).isEmpty then
      some (n.value negative)
    else none

end SourceReview.Decimal
