/-!
# Doubles as exact numbers

A finite double is `± mantissa · 2 ^ exponent` for natural numbers below `2 ^ 53`. The two directions
here are the exact value of a double, and the double nearest to a ratio of natural numbers, where a
tie goes to the even mantissa. Together they round a double to a whole number.
-/

namespace SourceReview.Decimal

/-- The number `± mantissa · 2 ^ exponent`. -/
structure Binary where
  negative : Bool
  mantissa : Nat
  exponent : Int

/-- The power `2 ^ k`. -/
def twoTo (k : Nat) : Nat := Nat.pow 2 k

/-- The power `10 ^ k`. -/
def tenTo (k : Nat) : Nat := Nat.pow 10 k

/-- The value of a double. -/
inductive Value where
  | nan
  | infinite (negative : Bool)
  | finite (number : Binary)

/-- The exact value of a double, read off its bits. -/
def valueOf (x : Float) : Value :=
  let bits : Nat := x.toBits.toNat
  let negative := bits / twoTo 63 == 1
  let field : Nat := bits / twoTo 52 % 2048
  let fraction : Nat := bits % twoTo 52
  if field == 2047 then
    if fraction == 0 then .infinite negative else .nan
  else if field == 0 then .finite ⟨negative, fraction, -1074⟩
  else .finite ⟨negative, twoTo 52 + fraction, (field : Int) - 1075⟩

/-- `2 ^ k` times `n` as a ratio of natural numbers. -/
def scaleTwo (n : Nat) (k : Int) : Nat × Nat :=
  if 0 ≤ k then (n * twoTo k.toNat, 1) else (n, twoTo (-k).toNat)

/-- `num / den` rounded to the nearest natural number, a tie to the even one. -/
def roundHalfEven (num den : Nat) : Nat :=
  let q := num / den
  let twice := 2 * (num % den)
  if den < twice || (twice == den && q % 2 == 1) then q + 1 else q

/-- The double `mantissa · 2 ^ exponent` for a mantissa of at most 53 bits and an exponent of at
least -1074, or infinity beyond the greatest double. -/
def assemble (negative : Bool) (mantissa : Nat) (exponent : Int) : Float :=
  let bits :=
    if mantissa < twoTo 52 then mantissa
    else if 971 < exponent then 2047 * twoTo 52
    else (exponent + 1075).toNat * twoTo 52 + (mantissa - twoTo 52)
  Float.ofBits (UInt64.ofNat (if negative then twoTo 63 + bits else bits))

/-- The double nearest to `± num / den`, for `0 < den`. -/
def nearest (negative : Bool) (num den : Nat) : Float :=
  if num == 0 then assemble negative 0 (-1074)
  else
    -- With this first guess the quotient lies between `2 ^ 51` and `2 ^ 54`.
    let guess : Int := (num.log2 : Int) - den.log2 - 52
    let ratio (k : Int) : Nat × Nat :=
      if 0 ≤ k then (num, den * twoTo k.toNat) else (num * twoTo (-k).toNat, den)
    let fits (k : Int) : Bool := (ratio k).1 < twoTo 53 * (ratio k).2
    let exponent := if fits (guess - 1) then guess - 1 else if fits guess then guess else guess + 1
    let exponent := max exponent (-1074)
    let (n, d) := ratio exponent
    let mantissa := roundHalfEven n d
    if mantissa == twoTo 53 then assemble negative (twoTo 52) (exponent + 1)
    else assemble negative mantissa exponent

/-- `num / den` rounded to the nearest natural number, a tie to the greater one. -/
def roundHalfUp (num den : Nat) : Nat := (2 * num + den) / (2 * den)

/-- A double rounded to the nearest whole number, a tie away from zero. Zero keeps the sign. -/
def toWhole (x : Float) : Float :=
  match valueOf x with
  | .finite number =>
    -- From the exponent zero on, the number is whole.
    if 0 ≤ number.exponent then x
    else
      nearest number.negative
        (roundHalfUp number.mantissa (twoTo (-number.exponent).toNat)) 1
  | .infinite _ => x
  | .nan => x

end SourceReview.Decimal
