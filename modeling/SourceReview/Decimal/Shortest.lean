import SourceReview.Decimal.Binary

/-!
# The fewest digits that read back

Among the decimal numbers that round to a given double there are some with the fewest significant
digits; the nearest of these to the double is its shortest form. For each number of digits it is
enough to test the two decimals of that many digits on either side of the double.
-/

namespace SourceReview.Decimal

/-- Which of two equally near decimals is taken. -/
inductive Tie where
  | toEven
  | up
  deriving DecidableEq

/-- A positive decimal number `digits · 10 ^ exponent`. -/
structure Digits where
  digits : Nat
  exponent : Int

/-- `num / den` divided by `10 ^ k`, as a ratio. -/
def scaleTen (num den : Nat) (k : Int) : Nat × Nat :=
  if 0 ≤ k then (num, den * tenTo k.toNat) else (num * tenTo (-k).toNat, den)

/-- The exponent `k` with `10 ^ k ≤ num / den < 10 ^ (k + 1)`, for positive `num` and `den`,
searched downwards from an upper bound. -/
def leadingExponent (num den : Nat) : Int :=
  let start : Int := (((num.log2 : Int) - den.log2 + 1) * 30103) / 100000 + 1
  go 4 start
where
  /-- The bound is too high by at most three. -/
  go : Nat → Int → Int
    | 0, k => k
    | n + 1, k =>
      let (a, b) := scaleTen num den k
      if b ≤ a then k else go n (k - 1)

/-- The shortest form of `mantissa · 2 ^ exponent`, where the mantissa is positive. -/
def shortest (tie : Tie) (b : Binary) : Digits :=
  -- All quantities are multiples of a quarter of the unit in the last place.
  let (unit, den) := scaleTwo 1 (b.exponent - 2)
  let value := 4 * b.mantissa * unit
  let above := 2 * unit
  let below := if b.mantissa == twoTo 52 && -1074 < b.exponent then unit else 2 * unit
  let closed := b.mantissa % 2 == 0
  let lead := leadingExponent value den
  -- Whether `d · 10 ^ k` rounds to the double.
  let hits (d : Nat) (k : Int) : Bool :=
    let (dn, dd) := if 0 ≤ k then (d * tenTo k.toNat, 1) else (d, tenTo (-k).toNat)
    let x := dn * den
    let lo := (value - below) * dd
    let hi := (value + above) * dd
    if closed then lo ≤ x && x ≤ hi else lo < x && x < hi
  let rec go : Nat → Nat → Digits
    | 0, _ => ⟨value / den, 0⟩
    | fuel + 1, count =>
      let k := lead - count + 1
      let (n, d) := scaleTen value den k
      let low := n / d
      let twice := 2 * (n % d)
      match hits low k, hits (low + 1) k with
      | true, true =>
        if twice < d then ⟨low, k⟩
        else if d < twice then ⟨low + 1, k⟩
        else if tie == .toEven && low % 2 == 0 then ⟨low, k⟩
        else ⟨low + 1, k⟩
      | true, false => ⟨low, k⟩
      | false, true => ⟨low + 1, k⟩
      | false, false => go fuel (count + 1)
  go 17 1

end SourceReview.Decimal
