-- Readings of large floating-point numbers. A reader takes a number as a count and
-- a power of ten, and each of the three roundings on the way adds at most one part
-- in `2 ^ 52`, so that a number a little below the largest is read at all.
import FeedSearch.Json.Number
import FeedSearch.Proofs.FloatMagnitudes
import Mathlib.Algebra.Order.Field.Power
import Mathlib.Tactic.Linarith
import Mathlib.Tactic.Ring

namespace FeedSearch.Number

open Float.Model Float.Model.UnpackedFloat

/-! ## Sizes -/

/-- The size of a finite number. -/
def size : UnpackedFloat → ℚ
  | .finite _ m e _ => m * 2 ^ e
  | _ => 0

/-- What one rounding makes of the size of a number, at most. -/
def stretch : ℚ := 1 + 1 / 2 ^ 52

variable {m : Nat} {e : Int} {u v : UnpackedFloat}

theorem stretch_pos : 0 < stretch := by
  unfold stretch
  norm_num

theorem size_nonneg (u : UnpackedFloat) : 0 ≤ size u := by
  cases u with
  | finite sign m e hm =>
    unfold size
    positivity
  | _ => exact le_refl 0

theorem size_ofMantissa (sign : Sign) (m : Nat) (e : Int) :
    size (ofMantissa sign m e) = m * 2 ^ e := by
  by_cases hm : m = 0
  · rw [ofMantissa, dif_pos hm, hm, Nat.cast_zero, zero_mul]
    rfl
  · rw [ofMantissa, dif_neg hm]
    rfl

theorem roundWithAccuracy_size (sign : Sign) (accuracy : Accuracy) (hm : 2 ^ 52 ≤ m)
    (hone : 0 ≤ (m.log2 : Int) + e) :
    size (roundWithAccuracy .binary64 sign m e accuracy) ≤ m * 2 ^ e * stretch := by
  obtain ⟨r, hrlow, hr, heq⟩ := roundWithAccuracy_long sign accuracy hm hone
  have hlog : 52 ≤ m.log2 := (Nat.le_log2 (by omega)).mpr hm
  rw [heq, size_ofMantissa]
  generalize r.log2 - 52 = t
  have hwhole : 2 ^ 52 * 2 ^ (m.log2 - 52) ≤ m := by
    rw [← Nat.pow_add, Nat.add_sub_cancel' hlog]
    exact Nat.log2_self_le (by omega)
  generalize m.log2 - 52 = s at hr hwhole ⊢
  have hcut : r / 2 ^ t * 2 ^ t ≤ r := Nat.div_mul_le_self r (2 ^ t)
  have hrounded : r * 2 ^ s ≤ m + 2 ^ s := by
    have hdropped : m / 2 ^ s * 2 ^ s ≤ m := Nat.div_mul_le_self m (2 ^ s)
    rcases hr with rfl | rfl
    · omega
    · rw [Nat.add_mul]
      omega
  have hcut' : ((r / 2 ^ t : Nat) : ℚ) * 2 ^ t ≤ r := by exact_mod_cast hcut
  have hrounded' : (r : ℚ) * 2 ^ s ≤ m + 2 ^ s := by exact_mod_cast hrounded
  have hwhole' : (2 : ℚ) ^ 52 * 2 ^ s ≤ m := by exact_mod_cast hwhole
  have hpos : (0 : ℚ) < 2 ^ s := by positivity
  have hmantissa : ((r / 2 ^ t : Nat) : ℚ) * 2 ^ t * 2 ^ s ≤ m * stretch :=
    calc ((r / 2 ^ t : Nat) : ℚ) * 2 ^ t * 2 ^ s ≤ r * 2 ^ s :=
          mul_le_mul_of_nonneg_right hcut' hpos.le
      _ ≤ m + 2 ^ s := hrounded'
      _ ≤ m * stretch := by
          unfold stretch
          linarith
  calc ((r / 2 ^ t : Nat) : ℚ) * 2 ^ (e + s + t)
      = ((r / 2 ^ t : Nat) : ℚ) * 2 ^ t * 2 ^ s * 2 ^ e := by
        rw [zpow_add₀ (by norm_num), zpow_add₀ (by norm_num), zpow_natCast, zpow_natCast]
        ring
    _ ≤ m * stretch * 2 ^ e := mul_le_mul_of_nonneg_right hmantissa (by positivity)
    _ = m * 2 ^ e * stretch := by ring

/-! ## Packing -/

/-- The exponent of a number below `2 ^ 1024` has room. -/
theorem exponent_le_of_size (hm : 2 ^ 52 ≤ m) (h : (m : ℚ) * 2 ^ e < 2 ^ 1024) : e ≤ 971 := by
  by_contra hlarge
  have hstep : (2 : ℚ) ^ (972 : Int) ≤ 2 ^ e := zpow_le_zpow_right₀ (by norm_num) (by omega)
  have hm' : (2 : ℚ) ^ 52 ≤ m := by exact_mod_cast hm
  have hall : (2 : ℚ) ^ 52 * 2 ^ (972 : Int) ≤ m * 2 ^ e :=
    mul_le_mul hm' hstep (by positivity) (by positivity)
  have hsame : (2 : ℚ) ^ 52 * 2 ^ (972 : Int) = 2 ^ 1024 := by
    rw [show (972 : Int) = (972 : Nat) from rfl, zpow_natCast, ← pow_add]
  rw [hsame] at hall
  exact absurd h (not_lt.mpr hall)

/-- A number that has room keeps its mantissa and its exponent when it is packed. -/
theorem unpack_pack (hu : OneAtLeast u) (hsize : size u < 2 ^ 1024) :
    OneAtLeast (unpack .binary64 (UnpackedFloat.pack .binary64 u)) ∧
      size (unpack .binary64 (UnpackedFloat.pack .binary64 u)) = size u := by
  cases u with
  | infinity _ => exact hu.elim
  | notANumber => exact hu.elim
  | zero _ => exact hu.elim
  | finite sign m e hm =>
    obtain ⟨hlow, hhigh, he⟩ := hu
    have hroom := exponent_le_of_size hlow hsize
    have hlog : m.log2 = 52 := (Nat.log2_eq_iff (by omega)).mpr ⟨hlow, hhigh⟩
    have hpacked : UnpackedFloat.pack .binary64 (.finite sign m e hm) =
        packComponents .binary64 sign (BitVec.ofNat 11 (e + 1075).toNat) (BitVec.ofNat 52 m) := by
      rw [pack_finite hroom, if_pos hlog]
    have hfield : (BitVec.ofNat 11 (e + 1075).toNat).toNat = (e + 1075).toNat :=
      Nat.mod_eq_of_lt (by omega)
    have hunpacked : unpackExponent (UnpackedFloat.pack .binary64 (.finite sign m e hm)) =
        BitVec.ofNat 11 (e + 1075).toNat := by
      rw [hpacked, unpackExponent_packComponents]
    have htop : BitVec.ofNat 11 (e + 1075).toNat ≠ -1#11 := by
      intro h
      have : (e + 1075).toNat = 2047 := hfield.symm.trans (congrArg BitVec.toNat h)
      omega
    have hbottom : BitVec.ofNat 11 (e + 1075).toNat ≠ 0#11 := by
      intro h
      have : (e + 1075).toNat = 0 := hfield.symm.trans (congrArg BitVec.toNat h)
      omega
    have hmantissa : (1#1 ++ unpackMantissa (UnpackedFloat.pack .binary64
        (.finite sign m e hm))).toNat = m := by
      rw [hpacked, unpackMantissa_packComponents, BitVec.toNat_append,
        ← Nat.shiftLeft_add_eq_or_of_lt (BitVec.isLt _), BitVec.toNat_ofNat]
      show 1 <<< 52 + m % 2 ^ 52 = m
      omega
    have hexponent : ((unpackExponent (UnpackedFloat.pack .binary64
        (.finite sign m e hm))).toNat : Int) - 1075 = e := by
      rw [hunpacked, hfield]
      omega
    rw [unpack_finite (hunpacked ▸ htop) (hunpacked ▸ hbottom)]
    dsimp only [OneAtLeast, size]
    rw [hmantissa, hexponent]
    exact ⟨⟨hlow, hhigh, he⟩, rfl⟩

/-! ## Operations -/

/-- A product is rounded once. -/
theorem round_product (sign : Sign) {m n : Nat} {e f : Int} (hlow : 2 ^ 52 ≤ m * n)
    (hone : 0 ≤ ((m * n).log2 : Int) + (e + f)) :
    OneAtLeast (roundWithAccuracy .binary64 sign (m * n) (e + f) .exact) ∧
      size (roundWithAccuracy .binary64 sign (m * n) (e + f) .exact) ≤
        m * 2 ^ e * (n * 2 ^ f) * stretch := by
  refine ⟨roundWithAccuracy_oneAtLeast _ _ hlow hone, ?_⟩
  have hsame : ((m * n : Nat) : ℚ) * 2 ^ (e + f) = m * 2 ^ e * (n * 2 ^ f) := by
    rw [zpow_add₀ (by norm_num), Nat.cast_mul]
    ring
  rw [← hsame]
  exact roundWithAccuracy_size _ _ hlow hone

theorem mul_size (hu : OneAtLeast u) (hv : OneAtLeast v) :
    OneAtLeast (UnpackedFloat.mul .binary64 u v) ∧
      size (UnpackedFloat.mul .binary64 u v) ≤ size u * size v * stretch := by
  cases u with
  | infinity _ => exact hu.elim
  | notANumber => exact hu.elim
  | zero _ => exact hu.elim
  | finite sign m e hm =>
    cases v with
    | infinity _ => exact hv.elim
    | notANumber => exact hv.elim
    | zero _ => exact hv.elim
    | finite sign' n f hn =>
      obtain ⟨hlow, -, he⟩ := hu
      obtain ⟨hlow', -, hf⟩ := hv
      have hproduct : 2 ^ 104 ≤ m * n :=
        calc 2 ^ 104 = 2 ^ 52 * 2 ^ 52 := by norm_num
          _ ≤ m * n := Nat.mul_le_mul hlow hlow'
      have hlog : 104 ≤ (m * n).log2 := (Nat.le_log2 (by omega)).mpr hproduct
      exact round_product _ (by omega) (by omega)

/-- A count is rounded once. -/
theorem ofUInt64_size {n : UInt64} (hn : n ≠ 0) :
    size (UnpackedFloat.ofUInt64 .binary64 n) ≤ n.toNat * stretch := by
  obtain ⟨hpos, hround⟩ := ofUInt64_eq_round hn
  obtain ⟨s, hlow, hone, hwhole⟩ := round_whole .positive hpos
  have hsame : ((n.toNat * 2 ^ s : Nat) : ℚ) * 2 ^ (-s : Int) = n.toNat := by
    rw [Nat.cast_mul, Nat.cast_pow, Nat.cast_ofNat, zpow_neg, zpow_natCast, mul_assoc,
      mul_inv_cancel₀ (by positivity), mul_one]
  rw [hround, hwhole, ← hsame]
  exact roundWithAccuracy_size _ _ hlow hone

/-- A power of ten is rounded once. -/
theorem ofScientific_size {p : Nat} (hp : p ≤ 308) :
    OneAtLeast (UnpackedFloat.ofScientific .binary64 1 p) ∧
      size (UnpackedFloat.ofScientific .binary64 1 p) ≤ 10 ^ p * stretch := by
  have hpower : 2 ^ 53 ≤ 2 ^ 53 * 10 ^ p := Nat.le_mul_of_pos_right _ (Nat.pow_pos (by decide))
  have hlog : 53 ≤ (2 ^ 53 * 10 ^ p).log2 := (Nat.le_log2 (by omega)).mpr hpower
  have hround : UnpackedFloat.ofScientific .binary64 1 p =
      roundWithAccuracy .binary64 .positive (2 ^ 53 * 10 ^ p) (-53 + 0) .exact := by
    have hbits : (2 : Int) ^ Format.binary64.exponentBits = 2048 := rfl
    unfold UnpackedFloat.ofScientific
    rw [dif_neg (by decide), hbits, if_neg (by omega), if_neg (by omega), if_pos (by omega)]
    rfl
  have hsame : ((2 ^ 53 : Nat) : ℚ) * 2 ^ (-53 : Int) * ((10 ^ p : Nat) * 2 ^ (0 : Int)) =
      10 ^ p := by
    rw [zpow_zero, mul_one, Nat.cast_pow, Nat.cast_pow]
    norm_num
  rw [hround, ← hsame]
  exact round_product _ (by omega) (by omega)

/-! ## Room -/

/-- What a number may be to be read through three roundings: the largest number but for seven. -/
def readable : ℚ := (2 ^ 54 - 13) * 2 ^ 970

theorem readable_stretch : readable * stretch ^ 3 < 2 ^ 1024 :=
  calc readable * stretch ^ 3 = (2 ^ 54 - 13) * stretch ^ 3 * 2 ^ 970 := mul_right_comm _ _ _
    _ < 2 ^ 54 * 2 ^ 970 := by
        apply mul_lt_mul_of_pos_right _ (by positivity)
        unfold stretch
        norm_num
    _ = 2 ^ 1024 := by rw [← pow_add]

theorem one_le_stretch : 1 ≤ stretch := by
  unfold stretch
  norm_num

theorem lt_of_le_readable {q : ℚ} (h : q ≤ readable) : q * stretch < 2 ^ 1024 := by
  have hstretch : stretch ≤ stretch ^ 3 := le_self_pow₀ one_le_stretch (by decide)
  have hreadable : 0 ≤ readable := mul_nonneg (by norm_num) (by positivity)
  calc q * stretch ≤ readable * stretch ^ 3 := mul_le_mul h hstretch stretch_pos.le hreadable
    _ < 2 ^ 1024 := readable_stretch

/-- The largest power of ten that is a number may be read, and the next one is out of reach. -/
theorem readable_bounds : 10 ^ 308 ≤ readable ∧ readable < 10 ^ 309 := by
  have hlow : 10 ^ 308 + 13 * 2 ^ 970 ≤ 2 ^ 54 * 2 ^ 970 := by decide +kernel
  have hhigh : 2 ^ 54 * 2 ^ 970 < 10 ^ 309 := by decide +kernel
  have hlow' : (10 : ℚ) ^ 308 + 13 * 2 ^ 970 ≤ 2 ^ 54 * 2 ^ 970 := by exact_mod_cast hlow
  have hhigh' : (2 : ℚ) ^ 54 * 2 ^ 970 < 10 ^ 309 := by exact_mod_cast hhigh
  have hreadable : readable = 2 ^ 54 * 2 ^ 970 - 13 * 2 ^ 970 := sub_mul _ _ _
  constructor
  · exact hreadable ▸ le_sub_iff_add_le.mpr hlow'
  · exact hreadable ▸ lt_of_le_of_lt (sub_le_self _ (by positivity)) hhigh'

/-! ## Numbers of a size -/

/-- The number is `1` at least and `q` at most, with a mantissa of 53 bits. -/
def Within (q : ℚ) (x : Float) : Prop := OneAtLeast x.toModel.unpack ∧ size x.toModel.unpack ≤ q

variable {x y : Float} {a b : ℚ}

theorem within_of_size (hu : OneAtLeast u) (hsize : size u ≤ a) (ha : a < 2 ^ 1024) :
    Within a (.ofModel (pack u)) := by
  obtain ⟨hone, hsame⟩ := unpack_pack hu (lt_of_le_of_lt hsize ha)
  exact ⟨hone, hsame.trans_le hsize⟩

theorem Within.isInf (h : Within a x) : x.isInf = false := by
  obtain ⟨hone, -⟩ := h
  show x.toModel.unpack.isInf = false
  cases hx : x.toModel.unpack with
  | infinity _ => exact (hx ▸ hone : OneAtLeast (.infinity _)).elim
  | _ => rfl

theorem Within.mul (hx : Within a x) (hy : Within b y) (hroom : a * b * stretch < 2 ^ 1024) :
    Within (a * b * stretch) (x * y) := by
  obtain ⟨hone, hsize⟩ := mul_size hx.1 hy.1
  refine within_of_size hone (hsize.trans ?_) hroom
  have hmul : size x.toModel.unpack * size y.toModel.unpack ≤ a * b :=
    mul_le_mul hx.2 hy.2 (size_nonneg _) ((size_nonneg _).trans hx.2)
  exact mul_le_mul_of_nonneg_right hmul stretch_pos.le

theorem within_ofCount {n : UInt64} (hn : n ≠ 0) : Within (n.toNat * stretch) n.toFloat := by
  refine within_of_size (ofUInt64_oneAtLeast hn) (ofUInt64_size hn) ?_
  have hlt : (n.toNat : ℚ) < 2 ^ 64 := by exact_mod_cast n.toNat_lt
  apply lt_of_le_readable
  calc (n.toNat : ℚ) ≤ 2 ^ 64 := hlt.le
    _ ≤ 10 ^ 20 := by norm_num
    _ ≤ 10 ^ 308 := pow_le_pow_right₀ (by norm_num) (by decide)
    _ ≤ readable := readable_bounds.1

/-- The small powers of ten, which stand in a table, are the numbers that rounding gives. -/
theorem ofScientific_eq_ofModel (p : Nat) :
    Float.ofScientific 1 false p = .ofModel (.ofScientific 1 p) := by
  by_cases hp : p < 23
  · have htable : ∀ p < 23, Float.ofScientific 1 false p = .ofModel (.ofScientific 1 p) := by
      decide +kernel
    exact htable p hp
  · unfold Float.ofScientific
    rw [dif_neg (by omega)]
    rfl

theorem within_power {p : Nat} (hp : p ≤ 308) :
    Within (10 ^ p * stretch) (Float.ofScientific 1 false p) := by
  obtain ⟨hone, hsize⟩ := ofScientific_size hp
  rw [ofScientific_eq_ofModel]
  refine within_of_size hone hsize ?_
  apply lt_of_le_readable
  calc (10 : ℚ) ^ p ≤ 10 ^ 308 := pow_le_pow_right₀ (by norm_num) hp
    _ ≤ readable := readable_bounds.1

/-! ## Readings -/

theorem scaledFloat?_isSome {n : Nat} {e : Int} (hpos : 0 < n) (hn : n ≤ maxCount)
    (h : (n : ℚ) * 10 ^ e ≤ readable) : (Json.scaledFloat? n e).isSome = true := by
  have hcount : n.toUInt64.toNat = n := by
    rw [Nat.toUInt64, UInt64.toNat_ofNat']
    exact Nat.mod_eq_of_lt (Nat.lt_succ_of_le hn)
  have hne : n.toUInt64 ≠ 0 := by
    intro hzero
    rw [hzero] at hcount
    exact absurd hcount.symm (Nat.ne_of_gt hpos)
  unfold Json.scaledFloat?
  simp only
  split
  · rename_i he
    obtain ⟨p, rfl⟩ := Int.eq_ofNat_of_zero_le he
    rw [zpow_natCast] at h
    rw [Int.toNat_natCast]
    split
    · rename_i hp
      have hsize : (n : ℚ) * stretch * (10 ^ p * stretch) * stretch < 2 ^ 1024 :=
        calc (n : ℚ) * stretch * (10 ^ p * stretch) * stretch
            = n * 10 ^ p * stretch ^ 3 := by ring
          _ ≤ readable * stretch ^ 3 :=
            mul_le_mul_of_nonneg_right h (pow_nonneg stretch_pos.le 3)
          _ < 2 ^ 1024 := readable_stretch
      have hcounted := within_ofCount hne
      rw [hcount] at hcounted
      rw [(hcounted.mul (within_power (by omega)) hsize).isInf]
      rfl
    · rename_i hp
      have hlarge : (10 : ℚ) ^ 309 ≤ n * 10 ^ p :=
        calc (10 : ℚ) ^ 309 ≤ 10 ^ p := pow_le_pow_right₀ (by norm_num) (by omega)
          _ ≤ n * 10 ^ p := le_mul_of_one_le_left (by positivity) (by exact_mod_cast hpos)
      exact absurd (hlarge.trans h) (not_le.mpr readable_bounds.2)
  · rfl

end FeedSearch.Number
