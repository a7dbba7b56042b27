-- How large the results of floating-point arithmetic can be. A number is placed
-- between powers of two by the field of its exponent, and every operation moves
-- that place by a little more than the exact operation would, for rounding.
import FeedSearch.Number.Range
import Mathlib.Algebra.Ring.Nat

namespace FeedSearch.Number

open Float.Model Float.Model.UnpackedFloat

/-! ## Mantissas and exponents -/

/-- The number `m * 2 ^ e` is smaller than `2 ^ k`. -/
def Small (k : Int) (m : Nat) (e : Int) : Prop := m < 2 ^ (k - e).toNat

variable {k l : Int} {m n : Nat} {e : Int}

theorem Small.mono (h : Small k m e) (hkl : k ≤ l) : Small l m e := by
  unfold Small at h ⊢
  apply Nat.lt_of_lt_of_le h
  apply Nat.pow_le_pow_right (by decide)
  omega

theorem Small.lower {f : Int} (h : Small k m e) (hf : f ≤ e) : Small k m f := by
  unfold Small at h ⊢
  apply Nat.lt_of_lt_of_le h
  apply Nat.pow_le_pow_right (by decide)
  omega

theorem Small.exponent_lt (h : Small k m e) (hm : 0 < m) : e < k := by
  unfold Small at h
  by_cases hlt : e < k
  · exact hlt
  · have hnone : (k - e).toNat = 0 := by omega
    rw [hnone] at h
    omega

/-- Digits that are dropped make no number larger. -/
theorem Small.drop (h : Small k m e) (s : Nat) : Small k (m / 2 ^ s) (e + s) := by
  unfold Small at h ⊢
  apply Nat.div_lt_of_lt_mul
  rw [← Nat.pow_add]
  apply Nat.lt_of_lt_of_le h
  apply Nat.pow_le_pow_right (by decide)
  omega

/-- Digits that are added make no number larger. -/
theorem Small.extend (h : Small k m e) (s : Nat) (he : e ≤ k) : Small k (m * 2 ^ s) (e - s) := by
  unfold Small at h ⊢
  have hsum : (k - (e - s)).toNat = (k - e).toNat + s := by omega
  rw [hsum, Nat.pow_add]
  exact Nat.mul_lt_mul_of_pos_right h (Nat.two_pow_pos s)

theorem log2_lt_of_small (h : Small k m e) (hm : 0 < m) : (m.log2 : Int) + e < k := by
  have hlog : m.log2 < (k - e).toNat := (Nat.log2_lt (Nat.ne_of_gt hm)).mpr h
  omega

/-! ## Rounding -/

theorem targetExponent_eq (total : Int) :
    Format.binary64.targetExponent total = max (total - 53) (-1074) := rfl

theorem mantissa_shiftRight (em : ExtendedMantissa) (s : Nat) :
    (em >>> s).mantissa = em.mantissa / 2 ^ s := by
  induction s with
  | zero => exact (Nat.div_one _).symm
  | succ s ih =>
    have hstep : (em >>> (s + 1)).mantissa = (em >>> s).mantissa / 2 := rfl
    rw [hstep, ih, Nat.div_div_eq_div_mul, Nat.pow_succ]

theorem mantissa_ofMantissaAndAccuracy (m : Nat) (accuracy : Accuracy) :
    (ExtendedMantissa.ofMantissaAndAccuracy m accuracy).mantissa = m := by
  unfold ExtendedMantissa.ofMantissaAndAccuracy
  split <;> rfl

/-- Rounding leaves a mantissa or adds one to it. -/
theorem roundedMantissa_cases (em : ExtendedMantissa) :
    em.roundedMantissa = em.mantissa ∨ em.roundedMantissa = em.mantissa + 1 := by
  unfold ExtendedMantissa.roundedMantissa Accuracy.roundToNearestEven
  split
  · exact Or.inl rfl
  · exact Or.inl rfl
  · omega
  · exact Or.inr rfl

/-- The number of a mantissa, which may be zero. -/
def ofMantissa (sign : Sign) (m : Nat) (e : Int) : UnpackedFloat :=
  if h : m = 0 then .zero sign else .finite sign m e (Nat.pos_of_ne_zero h)

/-- What rounding does: digits are dropped down to the exponent that is wanted, the mantissa is
rounded, and if this has made it too long, a digit more is dropped. -/
theorem roundWithAccuracy_eq (sign : Sign) (m : Nat) (e : Int) (accuracy : Accuracy) :
    ∃ s r s' : Nat, s = (max (totalExponent m e - 53) (-1074) - e).toNat ∧
      (r = m / 2 ^ s ∨ r = m / 2 ^ s + 1) ∧
      s' = (max (totalExponent r (e + s) - 53) (-1074) - (e + s)).toNat ∧
      roundWithAccuracy .binary64 sign m e accuracy =
        ofMantissa sign (r / 2 ^ s') (e + s + s') := by
  let s := (max (totalExponent m e - 53) (-1074) - e).toNat
  let em := ExtendedMantissa.ofMantissaAndAccuracy m accuracy >>> s
  let r := em.roundedMantissa
  let s' := (max (totalExponent r (e + s) - 53) (-1074) - (e + s)).toNat
  let final := ExtendedMantissa.ofMantissaAndAccuracy r .exact >>> s'
  have hem : em.mantissa = m / 2 ^ s := by
    rw [mantissa_shiftRight, mantissa_ofMantissaAndAccuracy]
  have hfinal : final.mantissa = r / 2 ^ s' := by
    rw [mantissa_shiftRight, mantissa_ofMantissaAndAccuracy]
  have hround : roundWithAccuracy .binary64 sign m e accuracy =
      ofMantissa sign final.mantissa (e + s + s') := rfl
  rw [hfinal] at hround
  exact ⟨s, r, s', rfl, hem ▸ roundedMantissa_cases em, rfl, hround⟩

/-! ## Magnitudes -/

/-- The number is finite and smaller than `2 ^ k`. -/
def Below (k : Int) : UnpackedFloat → Prop
  | .zero _ => True
  | .finite _ m e _ => Small k m e
  | _ => False

/-- The number is finite, has a mantissa of 53 bits and is `1` at least. -/
def OneAtLeast : UnpackedFloat → Prop
  | .finite _ m e _ => 2 ^ 52 ≤ m ∧ m < 2 ^ 53 ∧ -52 ≤ e
  | _ => False

variable {u v : UnpackedFloat}

theorem Below.mono (h : Below k u) (hkl : k ≤ l) : Below l u := by
  cases u with
  | infinity sign => exact h
  | notANumber => exact h
  | zero sign => trivial
  | finite sign m e hm => exact Small.mono h hkl

theorem ofMantissa_below (sign : Sign) (h : Small k m e) : Below k (ofMantissa sign m e) := by
  by_cases hm : m = 0
  · rw [ofMantissa, dif_pos hm]
    trivial
  · rw [ofMantissa, dif_neg hm]
    exact h

/-- Rounding makes a number less than twice as large. -/
theorem roundWithAccuracy_below (sign : Sign) (accuracy : Accuracy) (h : Small k m e)
    (he : e ≤ k) (hk : -1021 ≤ k) :
    Below (k + 1) (roundWithAccuracy .binary64 sign m e accuracy) := by
  obtain ⟨s, r, s', hs, hr, _, heq⟩ := roundWithAccuracy_eq sign m e accuracy
  rw [heq]
  apply ofMantissa_below
  apply Small.drop
  have htotal : totalExponent m e ≤ k + 1 := by
    unfold totalExponent
    rcases Nat.eq_zero_or_pos m with rfl | hm
    · rw [Nat.log2_zero]
      omega
    · have := log2_lt_of_small h hm
      omega
  have hshifted : e + s ≤ k := by omega
  have hdropped : m / 2 ^ s < 2 ^ (k - (e + s)).toNat := h.drop s
  have hdouble : (k + 1 - (e + s)).toNat = (k - (e + s)).toNat + 1 := by omega
  have hrounded : r ≤ m / 2 ^ s + 1 := by
    rcases hr with hr | hr
    · exact Nat.le_succ_of_le (Nat.le_of_eq hr)
    · exact Nat.le_of_eq hr
  unfold Small
  rw [hdouble, Nat.pow_succ]
  calc
    r ≤ 2 ^ (k - (e + s)).toNat := Nat.le_trans hrounded hdropped
    _ < 2 ^ (k - (e + s)).toNat * 2 := by
      have := Nat.two_pow_pos (k - (e + s)).toNat
      omega

/-- A mantissa of 53 bits or more, cut to 53. -/
theorem drop_to_53_bits (hm : 2 ^ 52 ≤ m) :
    2 ^ 52 ≤ m / 2 ^ (m.log2 - 52) ∧ m / 2 ^ (m.log2 - 52) < 2 ^ 53 := by
  have hne : m ≠ 0 := by omega
  have hlog : 52 ≤ m.log2 := (Nat.le_log2 hne).mpr hm
  have hlow : 2 ^ m.log2 = 2 ^ 52 * 2 ^ (m.log2 - 52) := by
    rw [← Nat.pow_add]
    congr 1
    omega
  have hhigh : 2 ^ (m.log2 + 1) = 2 ^ 53 * 2 ^ (m.log2 - 52) := by
    rw [← Nat.pow_add]
    congr 1
    omega
  constructor
  · rw [Nat.le_div_iff_mul_le (Nat.two_pow_pos _), ← hlow]
    exact Nat.log2_self_le hne
  · rw [Nat.div_lt_iff_lt_mul (Nat.two_pow_pos _), ← hhigh]
    exact Nat.lt_log2_self

/-- What rounding does to a number with a mantissa of 53 bits or more that is `1` at least: its
first 53 bits are left, or one more than these, cut again. -/
theorem roundWithAccuracy_long (sign : Sign) (accuracy : Accuracy) (hm : 2 ^ 52 ≤ m)
    (hone : 0 ≤ (m.log2 : Int) + e) :
    ∃ r, 2 ^ 52 ≤ r ∧ (r = m / 2 ^ (m.log2 - 52) ∨ r = m / 2 ^ (m.log2 - 52) + 1) ∧
      roundWithAccuracy .binary64 sign m e accuracy =
        ofMantissa sign (r / 2 ^ (r.log2 - 52))
          (e + (m.log2 - 52 : Nat) + (r.log2 - 52 : Nat)) := by
  obtain ⟨s, r, s', hs, hr, hs', heq⟩ := roundWithAccuracy_eq sign m e accuracy
  have hlog : 52 ≤ m.log2 := (Nat.le_log2 (by omega)).mpr hm
  obtain rfl : s = m.log2 - 52 := by
    unfold totalExponent at hs
    omega
  have hrlow : 2 ^ 52 ≤ r := by
    obtain ⟨hlow, -⟩ := drop_to_53_bits hm
    rcases hr with hr | hr
    · exact hr ▸ hlow
    · exact hr ▸ Nat.le_succ_of_le hlow
  have hrlog : 52 ≤ r.log2 := (Nat.le_log2 (by omega)).mpr hrlow
  obtain rfl : s' = r.log2 - 52 := by
    unfold totalExponent at hs'
    omega
  exact ⟨r, hrlow, hr, heq⟩

/-- A number that is `1` at least is so when it is rounded. -/
theorem roundWithAccuracy_oneAtLeast (sign : Sign) (accuracy : Accuracy) (hm : 2 ^ 52 ≤ m)
    (hone : 0 ≤ (m.log2 : Int) + e) :
    OneAtLeast (roundWithAccuracy .binary64 sign m e accuracy) := by
  obtain ⟨r, hrlow, -, heq⟩ := roundWithAccuracy_long sign accuracy hm hone
  have hlog : 52 ≤ m.log2 := (Nat.le_log2 (by omega)).mpr hm
  have hrlog : 52 ≤ r.log2 := (Nat.le_log2 (by omega)).mpr hrlow
  obtain ⟨hlow, hhigh⟩ := drop_to_53_bits hrlow
  have hne : r / 2 ^ (r.log2 - 52) ≠ 0 := by omega
  rw [heq, ofMantissa, dif_neg hne]
  refine ⟨hlow, hhigh, ?_⟩
  omega

/-! ## Operations -/

theorem decreaseExponent_eq (m : Nat) (e target : Int) :
    decreaseExponent m e target =
      (m * 2 ^ (e - target).toNat, e - ((e - target).toNat : Nat)) := by
  simp only [decreaseExponent, Nat.shiftLeft_eq]

theorem round_below (sign : Sign) (h : Small k m e) (hm : 0 < m) (hk : -1021 ≤ k) :
    Below (k + 1) (UnpackedFloat.round .binary64 sign m e) := by
  have he := h.exponent_lt hm
  simp only [UnpackedFloat.round, decreaseExponent_eq]
  apply roundWithAccuracy_below _ _ _ _ hk
  · exact h.extend _ (Int.le_of_lt he)
  · omega

theorem normalize_below {n : Int} (h : Small k n.natAbs e) (hk : -1021 ≤ k) :
    Below (k + 1) (UnpackedFloat.normalize .binary64 n e .positive) := by
  unfold UnpackedFloat.normalize
  split
  · rename_i hlt
    have hneg : n < 0 := Int.compare_eq_lt.mp hlt
    have habs : (-n).toNat = n.natAbs := by omega
    rw [habs]
    exact round_below _ h (by omega) hk
  · trivial
  · rename_i hgt
    have hpos : 0 < n := Int.compare_eq_gt.mp hgt
    have habs : n.toNat = n.natAbs := by omega
    rw [habs]
    exact round_below _ h (by omega) hk

theorem mul_below (hu : Below k u) (hv : Below l v) (hk : -1021 ≤ k + l) :
    Below (k + l + 1) (UnpackedFloat.mul .binary64 u v) := by
  cases u with
  | infinity _ => exact hu.elim
  | notANumber => exact hu.elim
  | zero _ =>
    cases v with
    | infinity _ => exact hv.elim
    | notANumber => exact hv.elim
    | zero _ => trivial
    | finite _ _ _ _ => trivial
  | finite sign m e hm =>
    cases v with
    | infinity _ => exact hv.elim
    | notANumber => exact hv.elim
    | zero _ => trivial
    | finite sign' n f hn =>
      have he := Small.exponent_lt hu hm
      have hf := Small.exponent_lt hv hn
      have hsum : (k + l - (e + f)).toNat = (k - e).toNat + (l - f).toNat := by omega
      have hproduct : Small (k + l) (m * n) (e + f) := by
        unfold Small
        rw [hsum, Nat.pow_add]
        exact Nat.mul_lt_mul'' hu hv
      exact roundWithAccuracy_below _ _ hproduct (by omega) hk

theorem natAbs_apply_add_le (sign sign' : Sign) (m n : Nat) :
    (sign.apply m + sign'.apply n).natAbs ≤ m + n := by
  cases sign <;> cases sign' <;> simp only [Sign.apply] <;> omega

theorem add_finite {sign sign' : Sign} {m n : Nat} {e f : Int} {hm : 0 < m} {hn : 0 < n} :
    UnpackedFloat.add .binary64 (.finite sign m e hm) (.finite sign' n f hn) =
      normalize .binary64 (sign.apply (m * 2 ^ (e - min e f).toNat : Nat) +
        sign'.apply (n * 2 ^ (f - min e f).toNat : Nat)) (min e f) .positive := by
  have hadd : UnpackedFloat.add .binary64 (.finite sign m e hm) (.finite sign' n f hn) =
      normalize .binary64 (sign.apply (decreaseExponent m e (min e f)).1 +
        sign'.apply (decreaseExponent n f (min e f)).1) (min e f) .positive := rfl
  rw [hadd, decreaseExponent_eq, decreaseExponent_eq]

theorem add_below (hu : Below k u) (hv : Below k v) (hk : -1022 ≤ k) :
    Below (k + 2) (UnpackedFloat.add .binary64 u v) := by
  cases u with
  | infinity _ => exact hu.elim
  | notANumber => exact hu.elim
  | zero sign =>
    cases v with
    | infinity _ => exact hv.elim
    | notANumber => exact hv.elim
    | zero sign' => cases sign <;> cases sign' <;> trivial
    | finite _ _ _ _ => exact Below.mono hv (by omega)
  | finite sign m e hm =>
    cases v with
    | infinity _ => exact hv.elim
    | notANumber => exact hv.elim
    | zero _ => exact Below.mono hu (by omega)
    | finite sign' n f hn =>
      have he := Small.exponent_lt hu hm
      have hf := Small.exponent_lt hv hn
      -- Both numbers are brought to the lower of the two exponents.
      have hm' := Small.extend hu (e - min e f).toNat (Int.le_of_lt he)
      have hn' := Small.extend hv (f - min e f).toNat (Int.le_of_lt hf)
      have hdown : e - ((e - min e f).toNat : Nat) = min e f := by omega
      have hdown' : f - ((f - min e f).toNat : Nat) = min e f := by omega
      rw [hdown] at hm'
      rw [hdown'] at hn'
      have htwice : k + 2 = k + 1 + 1 := by omega
      rw [add_finite, htwice]
      apply normalize_below _ (by omega)
      have hdouble : (k + 1 - min e f).toNat = (k - min e f).toNat + 1 := by omega
      unfold Small at hm' hn' ⊢
      rw [hdouble, Nat.pow_succ]
      have hsum := natAbs_apply_add_le sign sign' (m * 2 ^ (e - min e f).toNat)
        (n * 2 ^ (f - min e f).toNat)
      omega

/-- A quotient by a number that is `1` at least is no larger than the dividend. -/
theorem div_below (hu : Below k u) (hv : OneAtLeast v) (hk : -1021 ≤ k) :
    Below (k + 1) (UnpackedFloat.div .binary64 u v) := by
  cases v with
  | infinity _ => exact hv.elim
  | notANumber => exact hv.elim
  | zero _ => exact hv.elim
  | finite sign' n f hn =>
    cases u with
    | infinity _ => exact hu.elim
    | notANumber => exact hu.elim
    | zero _ => trivial
    | finite sign m e hm =>
      obtain ⟨hlow, hhigh, hf⟩ := hv
      have he := Small.exponent_lt hu hm
      have hlog : n.log2 = 52 := (Nat.log2_eq_iff (by omega)).mpr ⟨hlow, hhigh⟩
      have hmlog := log2_lt_of_small hu hm
      have hdiv : UnpackedFloat.div .binary64 (.finite sign m e hm) (.finite sign' n f hn) =
          let (q, d, accuracy) := divCore .binary64 m e n f
          roundWithAccuracy .binary64 (sign / sign') q d accuracy := rfl
      rw [hdiv]
      simp only [divCore, targetExponent_eq, totalExponent, Nat.shiftLeft_eq]
      generalize htarget : min (e - f) _ = target
      apply roundWithAccuracy_below _ _ _ _ hk
      · -- The divisor is `2 ^ 52` at least, and its exponent makes up for it.
        have hextended := Small.extend hu (e - f - target).toNat (Int.le_of_lt he)
        have hquotient : Small k (m * 2 ^ (e - f - target).toNat / n)
            (e - ((e - f - target).toNat : Nat) + (52 : Nat)) := by
          apply Nat.lt_of_le_of_lt _ (hextended.drop 52)
          exact Nat.div_le_div_left hlow (by decide)
        exact hquotient.lower (by omega)
      · omega

/-! ## Counts -/

theorem ofUInt64_below (n : UInt64) : Below 65 (UnpackedFloat.ofUInt64 .binary64 n) := by
  have hsmall : Small 64 (n.toNat : Int).natAbs 0 := n.toNat_lt
  exact normalize_below hsmall (by decide)

/-- A whole number has a mantissa of 53 bits or more when it is rounded. -/
theorem round_whole (sign : Sign) (hm : 0 < m) :
    ∃ s : Nat, 2 ^ 52 ≤ m * 2 ^ s ∧ 0 ≤ ((m * 2 ^ s).log2 : Int) + -s ∧
      UnpackedFloat.round .binary64 sign m 0 =
        roundWithAccuracy .binary64 sign (m * 2 ^ s) (-s) .exact := by
  have hlow := Nat.log2_self_le (Nat.ne_of_gt hm)
  simp only [UnpackedFloat.round, decreaseExponent_eq, targetExponent_eq, totalExponent]
  generalize hs : (0 - max ((m.log2 : Int) + 1 + 0 - 53) (-1074)).toNat = s
  have hpower : 2 ^ (m.log2 + s) ≤ m * 2 ^ s := by
    rw [Nat.pow_add]
    exact Nat.mul_le_mul_right _ hlow
  have hne : m * 2 ^ s ≠ 0 := Nat.ne_of_gt (Nat.mul_pos hm (Nat.two_pow_pos s))
  have hlog : m.log2 + s ≤ (m * 2 ^ s).log2 := (Nat.le_log2 hne).mpr hpower
  refine ⟨s, ?_, ?_, ?_⟩
  · apply Nat.le_trans _ hpower
    apply Nat.pow_le_pow_right (by decide)
    omega
  · omega
  · rw [Int.zero_sub]

/-- A count is rounded as a whole number. -/
theorem ofUInt64_eq_round {n : UInt64} (hn : n ≠ 0) : 0 < n.toNat ∧
    UnpackedFloat.ofUInt64 .binary64 n = UnpackedFloat.round .binary64 .positive n.toNat 0 := by
  have hpos : 0 < n.toNat := by
    apply Nat.pos_of_ne_zero
    intro hzero
    exact hn (UInt64.toNat_inj.mp hzero)
  have hcompare : compare (n.toNat : Int) 0 = .gt := Int.compare_eq_gt.mpr (by omega)
  refine ⟨hpos, ?_⟩
  unfold UnpackedFloat.ofUInt64 UnpackedFloat.ofNat UnpackedFloat.ofInt UnpackedFloat.normalize
  rw [hcompare]
  simp

theorem ofUInt64_oneAtLeast {n : UInt64} (hn : n ≠ 0) :
    OneAtLeast (UnpackedFloat.ofUInt64 .binary64 n) := by
  obtain ⟨hpos, hround⟩ := ofUInt64_eq_round hn
  obtain ⟨s, hlow, hone, hwhole⟩ := round_whole .positive hpos
  rw [hround, hwhole]
  exact roundWithAccuracy_oneAtLeast _ _ hlow hone

/-! ## Bits -/

theorem exponentField_eq (bits : UInt64) : exponentField bits =
    (@unpackExponent .binary64 bits.toBitVec).toNat := by
  simp only [unpackExponent, BitVec.toNat_cast, BitVec.extractLsb_toNat, Nat.shiftRight_eq_div_pow]
  rfl

theorem small_of_lt {b : Nat} (hm : m < 2 ^ b) (hb : b + e ≤ k) : Small k m e := by
  apply Nat.lt_of_lt_of_le hm
  apply Nat.pow_le_pow_right (by decide)
  omega

/-- A bit in front of a mantissa of 52 bits is worth the most of all. -/
theorem le_frontBit (mantissa : BitVec 52) : 2 ^ 52 ≤ (1#1 ++ mantissa).toNat := by
  rw [BitVec.toNat_append]
  exact Nat.left_le_or

/-- A number whose exponent has a field of its own is read with one more bit in front of its
mantissa. -/
theorem unpack_finite {b : BitVec 64} (htop : @unpackExponent .binary64 b ≠ -1#11)
    (hbottom : @unpackExponent .binary64 b ≠ 0#11) :
    UnpackedFloat.unpack .binary64 b =
      .finite (Sign.ofBitVec (@unpackSign .binary64 b)) (1#1 ++ @unpackMantissa .binary64 b).toNat
        ((@unpackExponent .binary64 b).toNat - 1075)
        (Nat.lt_of_lt_of_le (Nat.two_pow_pos 52) (le_frontBit _)) := by
  unfold UnpackedFloat.unpack
  dsimp only
  rw [if_neg htop, if_neg hbottom]
  rfl

/-- A number is placed by the field of its exponent. -/
theorem unpack_below {bits : UInt64} (h : (exponentField bits : Int) ≤ k + 1022)
    (hk : -1021 ≤ k) (hfinite : exponentField bits < 2047) :
    Below k (UnpackedFloat.unpack .binary64 bits.toBitVec) := by
  rw [exponentField_eq] at h hfinite
  have htop : @unpackExponent .binary64 bits.toBitVec ≠ -1#11 := by
    intro htop
    rw [htop] at hfinite
    exact absurd hfinite (by decide)
  by_cases hbottom : @unpackExponent .binary64 bits.toBitVec = 0#11
  · -- the mantissa has no bit in front of it
    unfold UnpackedFloat.unpack
    dsimp only
    rw [if_neg htop, if_pos hbottom]
    by_cases hzero : @unpackMantissa .binary64 bits.toBitVec = 0#52
    · rw [dif_pos hzero]
      trivial
    · rw [dif_neg hzero, hbottom]
      apply small_of_lt (BitVec.isLt _)
      simp [Format.exponentBias]
      omega
  · rw [unpack_finite htop hbottom]
    exact small_of_lt (b := 53) (BitVec.isLt _) (by omega)

theorem unpack_oneAtLeast {bits : UInt64} (h : 1023 ≤ exponentField bits)
    (hfinite : exponentField bits < 2047) :
    OneAtLeast (UnpackedFloat.unpack .binary64 bits.toBitVec) := by
  rw [exponentField_eq] at h hfinite
  have htop : @unpackExponent .binary64 bits.toBitVec ≠ -1#11 := by
    intro htop
    rw [htop] at hfinite
    exact absurd hfinite (by decide)
  have hbottom : @unpackExponent .binary64 bits.toBitVec ≠ 0#11 := by
    intro hbottom
    rw [hbottom] at h
    exact absurd h (by decide)
  rw [unpack_finite htop hbottom]
  exact ⟨le_frontBit _, BitVec.isLt _, by omega⟩

theorem exponentField_pack (u : UnpackedFloat) : exponentField (pack u).toBits =
    (unpackExponent (UnpackedFloat.pack .binary64 u)).toNat := by
  rw [exponentField_eq]
  rfl

/-- A number whose exponent has room. The field of the exponent is empty for a mantissa that is too
short. -/
theorem pack_finite {sign : Sign} {m : Nat} {e : Int} {hm : 0 < m} (he : e ≤ 971) :
    UnpackedFloat.pack .binary64 (.finite sign m e hm) =
      packComponents .binary64 sign
        (if m.log2 = 52 then BitVec.ofNat 11 (e + 1075).toNat else 0#11) (BitVec.ofNat 52 m) := by
  have hpack : UnpackedFloat.pack .binary64 (.finite sign m e hm) =
      if 2 ^ 11 ≤ (e + 1023 + 52).toNat + 1 then packedInfinity .binary64 sign
      else if m.log2 + 1 = 53 then
        packComponents .binary64 sign (BitVec.ofNat 11 (e + 1023 + 52).toNat) (BitVec.ofNat 52 m)
      else packComponents .binary64 sign 0#11 (BitVec.ofNat 52 m) := rfl
  have hbias : e + 1023 + 52 = e + 1075 := by omega
  rw [hpack, hbias, if_neg (by omega)]
  by_cases hlog : m.log2 = 52
  · rw [if_pos hlog, if_pos (by omega)]
  · rw [if_neg hlog, if_neg (by omega)]

theorem unpackExponent_pack_finite {sign : Sign} {m : Nat} {e : Int} {hm : 0 < m} (he : e ≤ 971) :
    (unpackExponent (UnpackedFloat.pack .binary64 (.finite sign m e hm))).toNat =
      if m.log2 = 52 then (e + 1075).toNat else 0 := by
  rw [pack_finite he, unpackExponent_packComponents]
  split
  · apply Nat.mod_eq_of_lt
    show (e + 1075).toNat < 2 ^ 11
    omega
  · rfl

theorem exponentField_pack_le (h : Below k u) (hk : 0 ≤ k) (hrange : k ≤ 900) :
    (exponentField (pack u).toBits : Int) ≤ k + 1022 := by
  rw [exponentField_pack]
  cases u with
  | infinity sign => exact h.elim
  | notANumber => exact h.elim
  | zero sign =>
    have hfield : unpackExponent (UnpackedFloat.pack .binary64 (.zero sign)) = 0#11 :=
      unpackExponent_packComponents ..
    have hzero : (0#11).toNat = 0 := rfl
    rw [hfield, hzero]
    omega
  | finite sign m e hm =>
    have he := Small.exponent_lt h hm
    have hlog := log2_lt_of_small h hm
    rw [unpackExponent_pack_finite (by omega)]
    split
    · omega
    · omega

theorem le_exponentField_pack (h : OneAtLeast u) (hbelow : Below k u) (hrange : k ≤ 900) :
    1023 ≤ exponentField (pack u).toBits := by
  rw [exponentField_pack]
  cases u with
  | infinity sign => exact h.elim
  | notANumber => exact h.elim
  | zero sign => exact h.elim
  | finite sign m e hm =>
    obtain ⟨hlow, hhigh, he⟩ := h
    have hlt := Small.exponent_lt hbelow hm
    have hlog : m.log2 = 52 := (Nat.log2_eq_iff (by omega)).mpr ⟨hlow, hhigh⟩
    rw [unpackExponent_pack_finite (by omega), if_pos hlog]
    omega

/-! ## Numbers in place -/

/-- The number is finite and smaller than `2 ^ k`, by the field of its exponent. -/
def UpTo (k : Nat) (x : Float) : Prop := exponentField x.toBits ≤ k + 1022

/-- The number is `1` at least or not finite. -/
def FromOne (x : Float) : Prop := 1023 ≤ exponentField x.toBits

variable {x y : Float} {a b : Nat}

theorem UpTo.mono (h : UpTo a x) (hab : a ≤ b) : UpTo b x := by
  unfold UpTo at h ⊢
  omega

theorem UpTo.below (h : UpTo a x) (ha : a ≤ 900) : Below a x.toModel.unpack := by
  unfold UpTo at h
  apply unpack_below
  · exact Int.ofNat_le.mpr h
  · omega
  · show exponentField x.toBits < 2047
    omega

theorem FromOne.oneAtLeast (h : FromOne x) (hx : UpTo a x) (ha : a ≤ 900) :
    OneAtLeast x.toModel.unpack := by
  unfold UpTo at hx
  apply unpack_oneAtLeast h
  show exponentField x.toBits < 2047
  omega

theorem upTo_of_below (h : Below a u) (ha : a ≤ 900) : UpTo a (.ofModel (pack u)) := by
  have hfield := exponentField_pack_le h (by omega) (by omega)
  unfold UpTo
  show exponentField (pack u).toBits ≤ a + 1022
  omega

theorem upTo_ofCount (n : UInt64) : UpTo 65 n.toFloat :=
  upTo_of_below (ofUInt64_below n) (by decide)

theorem fromOne_ofCount {n : UInt64} (hn : n ≠ 0) : FromOne n.toFloat :=
  le_exponentField_pack (ofUInt64_oneAtLeast hn) (ofUInt64_below n) (by decide)

theorem UpTo.add (hx : UpTo a x) (hy : UpTo a y) (ha : a ≤ 800) : UpTo (a + 2) (x + y) := by
  apply upTo_of_below _ (by omega)
  exact add_below (hx.below (by omega)) (hy.below (by omega)) (by omega)

theorem UpTo.mul (hx : UpTo a x) (hy : UpTo b y) (hab : a + b ≤ 800) :
    UpTo (a + b + 1) (x * y) := by
  apply upTo_of_below _ (by omega)
  exact mul_below (hx.below (by omega)) (hy.below (by omega)) (by omega)

theorem UpTo.div (hx : UpTo a x) (hy : UpTo b y) (hone : FromOne y) (ha : a ≤ 800)
    (hb : b ≤ 800) : UpTo (a + 1) (x / y) := by
  apply upTo_of_below _ (by omega)
  exact div_below (hx.below (by omega)) (hone.oneAtLeast hy (by omega)) (by omega)

theorem UpTo.isFinite (h : UpTo a x) (ha : a ≤ 900) : isFinite x.toBits = true := by
  unfold UpTo at h
  unfold Number.isFinite topExponent
  rw [bne_iff_ne]
  omega

end FeedSearch.Number
