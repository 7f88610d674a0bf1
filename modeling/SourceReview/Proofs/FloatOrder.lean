/-!
# The order of floating-point numbers

Comparisons of floating-point numbers are false if one side is not a number. All other numbers have
a key (`key?`), and they are compared by their keys: first negative, zero or positive, then by
exponent, then by mantissa. This gives the two laws that thresholds need. A number that does not
stay within a limit exceeds it (`lt_of_not_le`), and so does any number that is not smaller.

Integers of 32 bits are exact in double precision, so that their conversion keeps the order
(`toFloat_le_toFloat`): the mantissa of `n` is `n` shifted to full length, and the exponent tells by
how much.
-/

namespace SourceReview.FloatOrder

open Float.Model Float.Model.UnpackedFloat

/-! ### Keys -/

/-- What a floating-point number is compared by. -/
structure Key where
  /-- From negative over zero to positive, with the infinities outermost. -/
  kind : Int
  exponent : Int
  mantissa : Int

/-- Whether a key comes strictly before another. -/
def Key.Below (a b : Key) : Prop :=
  a.kind < b.kind ∨ a.kind = b.kind ∧
    (a.exponent < b.exponent ∨ a.exponent = b.exponent ∧ a.mantissa < b.mantissa)

/-- The key of an unpacked number, if it is a number. -/
def key? : UnpackedFloat → Option Key
  | .notANumber => none
  | .infinity .negative => some ⟨-2, 0, 0⟩
  | .finite .negative m e _ => some ⟨-1, -e, -m⟩
  | .zero _ => some ⟨0, 0, 0⟩
  | .finite .positive m e _ => some ⟨1, e, m⟩
  | .infinity .positive => some ⟨2, 0, 0⟩

/-- The outcome of a comparison that agrees with two keys. -/
structure Key.Ordered (a b : Key) (o : Ordering) : Prop where
  lt_iff : o = .lt ↔ a.Below b
  gt_iff : o = .gt ↔ b.Below a

theorem ordered_positive (m n : Nat) (e f : Int) :
    Key.Ordered ⟨1, e, m⟩ ⟨1, f, n⟩ ((compare e f).then (compare m n)) := by
  constructor
  · rw [Ordering.then_eq_lt, Int.compare_eq_lt, Int.compare_eq_eq, Nat.compare_eq_lt]
    simp [Key.Below]
  · rw [Ordering.then_eq_gt, Int.compare_eq_gt, Int.compare_eq_eq, Nat.compare_eq_gt]
    simp [Key.Below, eq_comm]

theorem ordered_negative (m n : Nat) (e f : Int) :
    Key.Ordered ⟨-1, -e, -m⟩ ⟨-1, -f, -n⟩ ((compare e f).then (compare m n)).swap := by
  constructor
  · rw [Ordering.swap_eq_lt, Ordering.then_eq_gt, Int.compare_eq_gt, Int.compare_eq_eq,
      Nat.compare_eq_gt]
    simp [Key.Below]
  · rw [Ordering.swap_eq_gt, Ordering.then_eq_lt, Int.compare_eq_lt, Int.compare_eq_eq,
      Nat.compare_eq_lt]
    simp [Key.Below, eq_comm]

/-- Numbers are compared by their keys. -/
theorem compare_of_key? {x y : UnpackedFloat} {a b : Key} (hx : key? x = some a)
    (hy : key? y = some b) : ∃ o, x.compare y = some o ∧ a.Ordered b o := by
  rcases x with ⟨_ | _⟩ | _ | _ | ⟨_ | _, m, e, hm⟩ <;> cases hx <;>
    rcases y with ⟨_ | _⟩ | _ | _ | ⟨_ | _, n, f, hn⟩ <;> cases hy <;>
    -- Only finite numbers of the same sign differ in more than their kind.
    first
    | exact ⟨_, rfl, ordered_positive m n e f⟩
    | exact ⟨_, rfl, ordered_negative m n e f⟩
    | exact ⟨_, rfl, by simp [Key.Below, compare], by simp [Key.Below, compare]⟩

theorem eq_notANumber_of_key? {x : UnpackedFloat} (h : key? x = none) : x = .notANumber := by
  rcases x with ⟨_ | _⟩ | _ | _ | ⟨_ | _, m, e, hm⟩ <;> first | rfl | cases h

/-- Two floating-point numbers are compared by their keys, or one of them is not a number. -/
theorem compare_cases (x y : UnpackedFloat) :
    (x.compare y = none ∧ (key? x = none ∨ key? y = none)) ∨
      ∃ a b o, key? x = some a ∧ key? y = some b ∧ x.compare y = some o ∧ a.Ordered b o := by
  cases hx : key? x with
  | none =>
    rw [eq_notANumber_of_key? hx]
    exact .inl ⟨rfl, .inl rfl⟩
  | some a =>
    cases hy : key? y with
    | none =>
      rw [eq_notANumber_of_key? hy]
      exact .inl ⟨by cases x <;> rfl, .inr rfl⟩
    | some b =>
      obtain ⟨o, ho, hordered⟩ := compare_of_key? hx hy
      exact .inr ⟨a, b, o, rfl, rfl, ho, hordered⟩

/-! ### Comparisons -/

/-- The key of a floating-point number, if it is a number. -/
def rank? (x : Float) : Option Key := key? x.toModel.unpack

theorem le_iff {x y : Float} :
    x ≤ y ↔ ∃ a b, rank? x = some a ∧ rank? y = some b ∧ ¬ b.Below a := by
  have hle : x ≤ y ↔ (x.toModel.unpack.compare y.toModel.unpack).any (·.isLE) = true := by
    show decide _ = true ↔ _
    rw [decide_eq_true_iff]
    rfl
  unfold rank?
  rw [hle]
  rcases compare_cases x.toModel.unpack y.toModel.unpack with
    ⟨hnone, hx | hy⟩ | ⟨a, b, o, hx, hy, ho, hordered⟩
  · simp [hnone, hx]
  · simp [hnone, hy]
  · simp [ho, hx, hy, ← hordered.gt_iff, Ordering.isLE_iff_ne_gt]

theorem lt_iff {x y : Float} :
    x < y ↔ ∃ a b, rank? x = some a ∧ rank? y = some b ∧ a.Below b := by
  have hlt : x < y ↔ (x.toModel.unpack.compare y.toModel.unpack == some .lt) = true := by
    show decide _ = true ↔ _
    rw [decide_eq_true_iff]
    rfl
  unfold rank?
  rw [hlt]
  rcases compare_cases x.toModel.unpack y.toModel.unpack with
    ⟨hnone, hx | hy⟩ | ⟨a, b, o, hx, hy, ho, hordered⟩
  · simp [hnone, hx]
  · simp [hnone, hy]
  · simp [ho, hx, hy, ← hordered.lt_iff]

theorem isNaN_eq_false_of_rank? {x : Float} {a : Key} (h : rank? x = some a) :
    x.isNaN = false := by
  unfold rank? at h
  show x.toModel.unpack.isNaN = false
  cases hx : x.toModel.unpack with
  | notANumber =>
    rw [hx] at h
    cases h
  | _ => rfl

/-- Both sides of a comparison that holds are numbers. -/
theorem isNaN_eq_false_of_le {x y : Float} (h : x ≤ y) : x.isNaN = false ∧ y.isNaN = false := by
  obtain ⟨a, b, ha, hb, -⟩ := le_iff.1 h
  exact ⟨isNaN_eq_false_of_rank? ha, isNaN_eq_false_of_rank? hb⟩

/-- What does not stay within a limit exceeds it, if both can be compared with something. -/
theorem lt_of_not_le {x y z : Float} (hz : z ≤ x) (hy : y ≤ y) (h : ¬ y ≤ x) : x < y := by
  obtain ⟨_, a, -, ha, -⟩ := le_iff.1 hz
  obtain ⟨b, _, hb, -, -⟩ := le_iff.1 hy
  refine lt_iff.2 ⟨a, b, ha, hb, ?_⟩
  rcases Classical.em (a.Below b) with hbelow | hbelow
  · exact hbelow
  · exact absurd (le_iff.2 ⟨b, a, hb, ha, hbelow⟩) h

theorem lt_of_lt_of_le {x y z : Float} (hxy : x < y) (hyz : y ≤ z) : x < z := by
  obtain ⟨a, b, ha, hb, hab⟩ := lt_iff.1 hxy
  obtain ⟨b', c, hb', hc, hcb⟩ := le_iff.1 hyz
  obtain rfl : b = b' := Option.some.inj (hb.symm.trans hb')
  refine lt_iff.2 ⟨a, c, ha, hc, ?_⟩
  unfold Key.Below at hab hcb ⊢
  omega

theorem lt_of_le_of_lt {x y z : Float} (hxy : x ≤ y) (hyz : y < z) : x < z := by
  obtain ⟨a, b, ha, hb, hba⟩ := le_iff.1 hxy
  obtain ⟨b', c, hb', hc, hbc⟩ := lt_iff.1 hyz
  obtain rfl : b = b' := Option.some.inj (hb.symm.trans hb')
  refine lt_iff.2 ⟨a, c, ha, hc, ?_⟩
  unfold Key.Below at hba hbc ⊢
  omega

theorem not_le_of_lt {x y : Float} (h : x < y) : ¬ y ≤ x := by
  intro hle
  obtain ⟨a, b, ha, hb, hab⟩ := lt_iff.1 h
  obtain ⟨b', a', hb', ha', hnot⟩ := le_iff.1 hle
  obtain rfl : a = a' := Option.some.inj (ha.symm.trans ha')
  obtain rfl : b = b' := Option.some.inj (hb.symm.trans hb')
  exact hnot hab

/-! ### Packed numbers of full precision -/

theorem finite_congr {s : Sign} {m n : Nat} {e f : Int} (hm : m = n) (he : e = f) (hmpos : 0 < m)
    (hnpos : 0 < n) : finite s m e hmpos = finite s n f hnpos := by
  subst hm he
  rfl

theorem ofBitVec_unpackSign (spec : Format) (s : Sign) (e : BitVec spec.exponentBits)
    (m : BitVec spec.mantissaBitsWithoutImplicit) :
    Sign.ofBitVec (unpackSign (packComponents spec s e m)) = s := by
  have hsign : unpackSign (packComponents spec s e m) = s.toBitVec := by
    ext i hi
    obtain rfl : i = 0 := by omega
    delta unpackSign packComponents
    simp [BitVec.getLsbD_append, BitVec.getElem_append, BitVec.getLsbD_eq_getElem]
  rw [hsign]
  cases s <;> rfl

/-- A number of full precision is packed with the bits of its mantissa below the first. -/
theorem pack_of_log2_eq (s : Sign) {m : Nat} (hlog : m.log2 = 52) {e : Int} (hmax : e ≤ 971)
    (h : 0 < m) :
    UnpackedFloat.pack .binary64 (.finite s m e h)
      = packComponents .binary64 s (BitVec.ofNat 11 (e + 1075).toNat) (BitVec.ofNat 52 m) := by
  have hbiased : e + (Format.binary64.exponentBias : Int)
      + (Format.binary64.mantissaBitsWithoutImplicit : Int) = e + 1075 := by
    show e + 1023 + 52 = _
    omega
  unfold UnpackedFloat.pack
  rw [hbiased, hlog]
  rw [if_neg (by show ¬ 2048 ≤ _; omega),
    if_pos (show 52 + 1 = Format.binary64.mantissaBits from rfl)]

/-- A number with an exponent in use is unpacked with the first bit of its mantissa. -/
theorem unpack_of_fields {b : BitVec Format.binary64.numBits} {s : Sign} {e : BitVec 11}
    {m : BitVec 52} (hs : Sign.ofBitVec (unpackSign b) = s) (he : unpackExponent b = e)
    (hm : unpackMantissa b = m) (hones : e ≠ -1#11) (hzero : e ≠ 0#11)
    (h : 0 < (1#1 ++ m).toNat) :
    UnpackedFloat.unpack .binary64 b = .finite s (1#1 ++ m).toNat ((e.toNat : Int) - 1075) h := by
  subst hs he hm
  delta UnpackedFloat.unpack
  dsimp only
  rw [if_neg hones, if_neg hzero]
  rfl

/-- The first bit comes back in front of the stored ones. -/
theorem toNat_one_append {m : Nat} (hlog : m.log2 = 52) (h : 0 < m) :
    (1#1 ++ BitVec.ofNat 52 m).toNat = m := by
  obtain ⟨hlow, hhigh⟩ := (Nat.log2_eq_iff (Nat.ne_of_gt h)).1 hlog
  have hone : (1#1).toNat = 1 := rfl
  have hstored : (BitVec.ofNat 52 m).toNat = m % 2 ^ 52 := BitVec.toNat_ofNat m 52
  rw [BitVec.toNat_append, ← Nat.shiftLeft_add_eq_or_of_lt (BitVec.ofNat 52 m).isLt,
    Nat.shiftLeft_eq, hone, hstored]
  omega

/-- A number of full precision is unpacked as it was packed. -/
theorem unpack_pack_of_log2_eq (s : Sign) {m : Nat} (hlog : m.log2 = 52) {e : Int}
    (hmin : -1074 ≤ e) (hmax : e ≤ 971) (h : 0 < m) :
    UnpackedFloat.unpack .binary64 (UnpackedFloat.pack .binary64 (.finite s m e h))
      = .finite s m e h := by
  have hstored : (BitVec.ofNat 11 (e + 1075).toNat).toNat = (e + 1075).toNat := by
    rw [BitVec.toNat_ofNat, Nat.mod_eq_of_lt (by omega)]
  -- The two exponents that mark infinite and subnormal numbers are not in use.
  have hones : BitVec.ofNat 11 (e + 1075).toNat ≠ -1#11 := by
    intro heq
    have hnat : (e + 1075).toNat = 2047 := hstored.symm.trans (congrArg BitVec.toNat heq)
    omega
  have hzero : BitVec.ofNat 11 (e + 1075).toNat ≠ 0#11 := by
    intro heq
    have hnat : (e + 1075).toNat = 0 := hstored.symm.trans (congrArg BitVec.toNat heq)
    omega
  have hmantissa := toNat_one_append hlog h
  rw [pack_of_log2_eq s hlog hmax h,
    unpack_of_fields (ofBitVec_unpackSign _ s _ _) unpackExponent_packComponents
      unpackMantissa_packComponents hones hzero (Nat.lt_of_lt_of_eq h hmantissa.symm)]
  refine finite_congr hmantissa ?_ _ h
  rw [hstored]
  omega

/-! ### Integers as floating-point numbers -/

theorem log2_shiftLeft {n : Nat} (hn : 0 < n) (k : Nat) : (n <<< k).log2 = n.log2 + k := by
  have hpos : n <<< k ≠ 0 := by
    rw [Nat.shiftLeft_eq]
    exact Nat.ne_of_gt (Nat.mul_pos hn (Nat.two_pow_pos k))
  rw [Nat.log2_eq_iff hpos, Nat.shiftLeft_eq]
  constructor
  · rw [Nat.pow_add]
    exact Nat.mul_le_mul_right _ (Nat.log2_self_le (Nat.ne_of_gt hn))
  · rw [Nat.add_right_comm, Nat.pow_add]
    exact Nat.mul_lt_mul_of_pos_right Nat.lt_log2_self (Nat.two_pow_pos k)

/-- A mantissa of full length is not rounded. -/
theorem roundWithAccuracy_of_log2_eq {m : Nat} (hm : m.log2 = 52) {e : Int} (he : -1074 ≤ e)
    (h : 0 < m) :
    roundWithAccuracy .binary64 .positive m e .exact = .finite .positive m e h := by
  have hshift : shiftToTargetExponent .binary64 m e .exact = (⟨m, false, false⟩, e) := by
    have htarget : Format.binary64.targetExponent (totalExponent m e)
        = max (m.log2 + 1 + e - 53) (-1074) := rfl
    have hzero : (Format.binary64.targetExponent (totalExponent m e) - e).toNat = 0 := by
      rw [htarget, hm]
      omega
    unfold shiftToTargetExponent shiftToExponent
    simp only [hzero]
    simp [ExtendedMantissa.ofMantissaAndAccuracy, HShiftRight.hShiftRight, Nat.repeat]
  have hrounded : (ExtendedMantissa.mk m false false).roundedMantissa = m := rfl
  unfold roundWithAccuracy
  rw [hshift]
  dsimp only
  rw [hrounded, hshift]
  exact dif_neg (Nat.ne_of_gt h)

/-- An integer of at most 53 bits is exact: its mantissa is the integer shifted to full length. -/
theorem ofNat_eq_finite {n : Nat} (hn : 0 < n) (hlog : n.log2 ≤ 52)
    (h : 0 < n <<< (52 - n.log2)) :
    UnpackedFloat.ofNat .binary64 n
      = .finite .positive (n <<< (52 - n.log2)) (n.log2 - 52) h := by
  have hcompare : compare (n : Int) 0 = .gt := Int.compare_eq_gt.2 (by omega)
  have htarget : Format.binary64.targetExponent (totalExponent n 0) = n.log2 - 52 := by
    show max ((n.log2 : Int) + 1 + 0 - 53) (-1074) = _
    omega
  have hamount : (0 - ((n.log2 : Int) - 52)).toNat = 52 - n.log2 := by omega
  have hexponent : (0 : Int) - ((52 - n.log2 : Nat) : Int) = n.log2 - 52 := by omega
  unfold UnpackedFloat.ofNat UnpackedFloat.ofInt UnpackedFloat.normalize
  rw [hcompare]
  dsimp only
  unfold UnpackedFloat.round decreaseExponent
  dsimp only
  rw [Int.toNat_natCast, htarget, hamount, hexponent]
  apply roundWithAccuracy_of_log2_eq
  · rw [log2_shiftLeft hn]
    omega
  · omega

/-- The key of an integer. -/
theorem rank?_toFloat {n : UInt32} (hn : 0 < n.toNat) :
    rank? n.toFloat
      = some ⟨1, n.toNat.log2 - 52, (n.toNat <<< (52 - n.toNat.log2) : Nat)⟩ := by
  have hlog : n.toNat.log2 ≤ 52 := by
    have hlt := (Nat.log2_lt (Nat.ne_of_gt hn)).2 n.toNat_lt
    omega
  have hlength : (n.toNat <<< (52 - n.toNat.log2)).log2 = 52 := by
    rw [log2_shiftLeft hn]
    omega
  have hpos : 0 < n.toNat <<< (52 - n.toNat.log2) := by
    rw [Nat.shiftLeft_eq]
    exact Nat.mul_pos hn (Nat.two_pow_pos _)
  have hunpack : n.toFloat.toModel.unpack
      = .finite .positive _ ((n.toNat.log2 : Int) - 52) hpos := by
    show UnpackedFloat.unpack .binary64
      (UnpackedFloat.pack .binary64 (UnpackedFloat.ofNat .binary64 n.toNat)) = _
    rw [ofNat_eq_finite hn hlog hpos]
    exact unpack_pack_of_log2_eq .positive hlength (by omega) (by omega) hpos
  unfold rank?
  rw [hunpack]
  rfl

/-- Integers are ordered as floating-point numbers just as they are. -/
theorem toFloat_le_toFloat {m n : UInt32} (hm : 1 ≤ m) (h : m ≤ n) : m.toFloat ≤ n.toFloat := by
  have hmn : m.toNat ≤ n.toNat := UInt32.le_iff_toNat_le.1 h
  have hmpos : 0 < m.toNat := UInt32.le_iff_toNat_le.1 hm
  have hnpos : 0 < n.toNat := Nat.lt_of_lt_of_le hmpos hmn
  refine le_iff.2 ⟨_, _, rank?_toFloat hmpos, rank?_toFloat hnpos, ?_⟩
  have hlog : m.toNat.log2 ≤ n.toNat.log2 := by
    rw [Nat.le_log2 (Nat.ne_of_gt hnpos)]
    exact Nat.le_trans (Nat.log2_self_le (Nat.ne_of_gt hmpos)) hmn
  unfold Key.Below
  simp only
  rintro (hkind | ⟨-, hexponent | ⟨hexponent, hmantissa⟩⟩)
  · omega
  · omega
  · -- With the same exponent, both are shifted by the same amount.
    have hsame : n.toNat.log2 = m.toNat.log2 := by omega
    rw [hsame, Nat.shiftLeft_eq, Nat.shiftLeft_eq] at hmantissa
    have hle := Nat.mul_le_mul_right (2 ^ (52 - m.toNat.log2)) hmn
    omega

/-- Every integer is a number. -/
theorem toFloat_le_self (n : UInt32) : n.toFloat ≤ n.toFloat := by
  by_cases hn : 1 ≤ n
  · exact toFloat_le_toFloat hn (UInt32.le_refl n)
  · have hzero : n = 0 := by
      rw [UInt32.le_iff_toNat_le] at hn
      apply UInt32.toNat_inj.1
      have hone : (1 : UInt32).toNat = 1 := rfl
      have hnat : (0 : UInt32).toNat = 0 := rfl
      omega
    subst hzero
    decide

end SourceReview.FloatOrder
