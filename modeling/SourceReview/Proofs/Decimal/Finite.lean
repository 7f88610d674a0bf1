import Mathlib.Algebra.Group.Nat.Defs
import Mathlib.Algebra.Ring.Int.Defs
import SourceReview.Decimal.Reading

/-!
# Integers are finite numbers

The double nearest to an integer of 64 bits is finite (`Decimal.isFinite_ofInt`). A double is finite
unless all bits of its exponent are set, and the exponent of such an integer is small, since the
mantissa takes up 53 of its bits.
-/

namespace SourceReview.Decimal

open Float.Model Float.Model.UnpackedFloat

/-! ### Bits -/

/-- An exponent that is less than the greatest has a bit that is not set. -/
theorem ofNat_ne_ones {n : Nat} (hn : n < 2047) : BitVec.ofNat 11 n ≠ -1#11 := by
  intro heq
  have htoNat : n % 2 ^ 11 = 2047 := congrArg BitVec.toNat heq
  omega

/-- Unless all bits of the exponent are set, the number is zero or within the greatest exponent. -/
theorem unpack_cases {b : BitVec Format.binary64.numBits} (h : unpackExponent b ≠ -1#11) :
    (∃ s, UnpackedFloat.unpack .binary64 b = .zero s) ∨
      ∃ s m e, ∃ hm : 0 < m, UnpackedFloat.unpack .binary64 b = .finite s m e hm ∧ e ≤ 971 := by
  have hless : (unpackExponent b).toNat < 2047 := by
    have hlt : (unpackExponent b).toNat < 2048 := (unpackExponent b).isLt
    have hne : (unpackExponent b).toNat ≠ 2047 := fun heq => h (BitVec.eq_of_toNat_eq heq)
    omega
  have hbias : (Format.binary64.exponentBias : Int) = 1023 := rfl
  have hstored : (Format.binary64.mantissaBitsWithoutImplicit : Int) = 52 := rfl
  delta UnpackedFloat.unpack
  dsimp only
  by_cases hzero : unpackExponent b = 0#11
  · by_cases hnone : unpackMantissa b = 0#52
    · exact .inl ⟨_, (if_neg h).trans ((if_pos hzero).trans (dif_pos hnone))⟩
    · have htoNat : (unpackExponent b).toNat = 0 := congrArg BitVec.toNat hzero
      refine .inr ⟨_, _, _, _, (if_neg h).trans ((if_pos hzero).trans (dif_neg hnone)), ?_⟩
      omega
  · refine .inr ⟨_, _, _, _, (if_neg h).trans (if_neg hzero), ?_⟩
    omega

/-- A number is finite unless all bits of the exponent are set. -/
theorem isFinite_unpack {b : BitVec Format.binary64.numBits} (h : unpackExponent b ≠ -1#11) :
    (UnpackedFloat.unpack .binary64 b).isFinite = true := by
  rcases unpack_cases h with ⟨s, hzero⟩ | ⟨s, m, e, hm, hfinite, -⟩
  · rw [hzero]
    rfl
  · rw [hfinite]
    rfl

/-- A number within the greatest exponent is packed with a bit of the exponent that is not set. -/
theorem unpackExponent_pack_finite (s : Sign) {m : Nat} (hm : 0 < m) {e : Int} (he : e ≤ 971) :
    unpackExponent (UnpackedFloat.pack .binary64 (.finite s m e hm)) ≠ -1#11 := by
  have hbiased : e + (Format.binary64.exponentBias : Int)
      + (Format.binary64.mantissaBitsWithoutImplicit : Int) = e + 1075 := by
    show e + 1023 + 52 = _
    omega
  unfold UnpackedFloat.pack
  rw [hbiased, if_neg (by show ¬ 2048 ≤ _; omega)]
  split
  · rw [unpackExponent_packComponents]
    exact ofNat_ne_ones (by omega)
  · rw [unpackExponent_packComponents]
    exact ofNat_ne_ones (by decide)

/-- What is unpacked from a finite number is packed as one. -/
theorem unpackExponent_pack_unpack {b : BitVec Format.binary64.numBits}
    (h : unpackExponent b ≠ -1#11) :
    unpackExponent (UnpackedFloat.pack .binary64 (UnpackedFloat.unpack .binary64 b)) ≠ -1#11 := by
  rcases unpack_cases h with ⟨s, hzero⟩ | ⟨s, m, e, hm, hfinite, he⟩
  · rw [hzero]
    exact unpackExponent_packComponents ▸ ofNat_ne_ones (by decide)
  · rw [hfinite]
    exact unpackExponent_pack_finite s hm he

theorem isFinite_ofBits {b : UInt64} (h : b.toNat / 2 ^ 52 % 2048 ≠ 2047) :
    (Float.ofBits b).isFinite = true := by
  have hexponent : @unpackExponent .binary64 b.toBitVec ≠ -1#11 := by
    intro heq
    have htoNat : b.toNat >>> 52 % 2 ^ 11 = 2047 := congrArg BitVec.toNat heq
    rw [Nat.shiftRight_eq_div_pow] at htoNat
    exact h htoNat
  exact isFinite_unpack (unpackExponent_pack_unpack hexponent)

/-! ### Rounded integers -/

theorem isFinite_assemble (negative : Bool) {mantissa : Nat} (hmantissa : mantissa < 2 ^ 53)
    {exponent : Int} (hexponent : exponent ≤ 971) :
    (assemble negative mantissa exponent).isFinite = true := by
  obtain ⟨bits, hbits⟩ : ∃ bits, bits = if mantissa < twoTo 52 then mantissa
    else if 971 < exponent then 2047 * twoTo 52
    else (exponent + 1075).toNat * twoTo 52 + (mantissa - twoTo 52) := ⟨_, rfl⟩
  have htwo : twoTo 52 = 2 ^ 52 := rfl
  have hfield : bits / 2 ^ 52 < 2047 := by
    rw [hbits, htwo, if_neg (by omega : ¬ 971 < exponent)]
    split <;> omega
  unfold assemble
  simp only [← hbits]
  apply isFinite_ofBits
  have hsign : twoTo 63 = 2048 * 2 ^ 52 := rfl
  rw [UInt64.toNat_ofNat']
  cases negative with
  | false =>
    rw [if_neg Bool.false_ne_true]
    omega
  | true =>
    rw [if_pos rfl, hsign]
    omega

/-- The rounding of a quotient goes up by less than one. -/
theorem roundHalfEven_le {num den bound : Nat} (h : num < bound * den) :
    roundHalfEven num den ≤ bound := by
  have hquotient : num / den < bound := Nat.div_lt_of_lt_mul (Nat.mul_comm bound den ▸ h)
  unfold roundHalfEven
  simp only
  split <;> omega

/-- A natural number divided by a power of two. -/
def scaled (n : Nat) (k : Int) : Nat × Nat :=
  if 0 ≤ k then (n, 1 * twoTo k.toNat) else (n * twoTo (-k).toNat, 1)

/-- The exponent with which a natural number is rounded. -/
def wholeExponent (n : Nat) : Int :=
  let guess : Int := (n.log2 : Int) - Nat.log2 1 - 52
  let fits (k : Int) : Bool := (scaled n k).1 < twoTo 53 * (scaled n k).2
  max (if fits (guess - 1) then guess - 1 else if fits guess then guess else guess + 1) (-1074)

theorem nearest_one (negative : Bool) (n : Nat) : nearest negative n 1 =
    if n == 0 then assemble negative 0 (-1074)
    else
      let mantissa := roundHalfEven (scaled n (wholeExponent n)).1 (scaled n (wholeExponent n)).2
      if mantissa == twoTo 53 then assemble negative (twoTo 52) (wholeExponent n + 1)
      else assemble negative mantissa (wholeExponent n) := by
  unfold nearest wholeExponent scaled
  rfl

/-- A natural number divided by the power of two that leaves 53 bits. -/
theorem scaled_lt (n : Nat) :
    (scaled n ((n.log2 : Int) - 52)).1 < twoTo 53 * (scaled n ((n.log2 : Int) - 52)).2 := by
  have hlog : n < 2 ^ (n.log2 + 1) := Nat.lt_log2_self
  unfold scaled
  split
  · rename_i hle
    have hpower : n.log2 + 1 = 53 + ((n.log2 : Int) - 52).toNat := by omega
    show n < 2 ^ 53 * (1 * 2 ^ ((n.log2 : Int) - 52).toNat)
    rw [Nat.one_mul, ← Nat.pow_add, ← hpower]
    exact hlog
  · rename_i hlt
    have hpower : n.log2 + 1 + (-((n.log2 : Int) - 52)).toNat = 53 := by omega
    show n * 2 ^ (-((n.log2 : Int) - 52)).toNat < 2 ^ 53 * 1
    calc n * 2 ^ (-((n.log2 : Int) - 52)).toNat
        < 2 ^ (n.log2 + 1) * 2 ^ (-((n.log2 : Int) - 52)).toNat :=
          Nat.mul_lt_mul_of_pos_right hlog (Nat.two_pow_pos _)
      _ = 2 ^ 53 * 1 := by rw [← Nat.pow_add, hpower, Nat.mul_one]

theorem wholeExponent_spec (n : Nat) :
    wholeExponent n ≤ (n.log2 : Int) - 52 ∧
      (scaled n (wholeExponent n)).1 < twoTo 53 * (scaled n (wholeExponent n)).2 := by
  have hlog : (n.log2 : Int) - Nat.log2 1 - 52 = n.log2 - 52 := by
    show (n.log2 : Int) - 0 - 52 = _
    omega
  unfold wholeExponent
  simp only [hlog, decide_eq_true_eq]
  by_cases hfits : (scaled n ((n.log2 : Int) - 52 - 1)).1
      < twoTo 53 * (scaled n ((n.log2 : Int) - 52 - 1)).2
  · have hmax : max ((n.log2 : Int) - 52 - 1) (-1074) = n.log2 - 52 - 1 := by omega
    rw [if_pos hfits, hmax]
    exact ⟨by omega, hfits⟩
  · have hmax : max ((n.log2 : Int) - 52) (-1074) = n.log2 - 52 := by omega
    rw [if_neg hfits, if_pos (scaled_lt n), hmax]
    exact ⟨Int.le_refl _, scaled_lt n⟩

theorem isFinite_nearest (negative : Bool) {n : Nat} (hn : n < 2 ^ 64) :
    (nearest negative n 1).isFinite = true := by
  have hlog : n.log2 ≤ 63 := by
    by_cases hzero : n = 0
    · rw [hzero]
      decide
    · exact Nat.lt_succ_iff.1 ((Nat.log2_lt hzero).2 hn)
  obtain ⟨hexponent, hfits⟩ := wholeExponent_spec n
  have hmantissa := roundHalfEven_le hfits
  have hfull : twoTo 53 = 2 ^ 53 := rfl
  rw [nearest_one]
  split
  · exact isFinite_assemble _ (by decide) (by omega)
  · simp only
    split
    · exact isFinite_assemble _ (by decide) (by omega)
    · rename_i hne
      have hless : roundHalfEven (scaled n (wholeExponent n)).1 (scaled n (wholeExponent n)).2
          ≠ twoTo 53 := by simpa using hne
      exact isFinite_assemble _ (by omega) (by omega)

/-- The double nearest to an integer of 64 bits is finite. -/
theorem isFinite_ofInt {n : Int} (hlow : -2 ^ 63 ≤ n) (hhigh : n < 2 ^ 64) :
    (ofInt n).isFinite = true :=
  isFinite_nearest _ (by omega)

end SourceReview.Decimal
