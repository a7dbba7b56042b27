-- Texts of floating-point numbers read back. The shortest decimal of a number lies
-- no further away than half way to its neighbour, so that its text, with a point or
-- with an exponent, is a number that a reader does not find too large.
import FeedSearch.Number.FloatText
import FeedSearch.Proofs.DecimalDigits
import FeedSearch.Proofs.FloatReadings
import FeedSearch.Proofs.JsonGrammar

namespace FeedSearch.Number

/-! ## Decimals near a number -/

/-- The number that a decimal is. -/
def Decimal.value (d : Decimal) : ℚ := d.digits * 10 ^ d.exponent

/-- Zero stands without an exponent. -/
def Decimal.IsPlain (d : Decimal) : Prop := d.digits = 0 → d.exponent = 0

theorem stripped_spec (d : Decimal) (fuel : Nat) :
    (d.stripped fuel).value = d.value ∧ (d.IsPlain → (d.stripped fuel).IsPlain) := by
  induction fuel generalizing d with
  | zero => exact ⟨rfl, id⟩
  | succ fuel ih =>
    unfold Decimal.stripped
    split
    · rename_i hzero
      rw [Bool.and_eq_true, bne_iff_ne, beq_iff_eq] at hzero
      obtain ⟨hvalue, hplain⟩ := ih ⟨d.digits / 10, d.exponent + 1⟩
      have hdigits : d.digits / 10 * 10 = d.digits := Nat.div_mul_cancel (by omega)
      refine ⟨hvalue.trans ?_, fun _ => hplain fun hnone => ?_⟩
      · have hcast : ((d.digits / 10 : Nat) : ℚ) * 10 = d.digits := by exact_mod_cast hdigits
        unfold Decimal.value
        rw [zpow_add_one₀ (by norm_num), ← hcast]
        ring
      · simp only at hnone
        omega
    · exact ⟨rfl, id⟩

theorem zpow_eq_div (q : ℚ) (k : Int) : q ^ k = q ^ k.toNat / q ^ (-k).toNat := by
  rcases Int.le_total 0 k with hk | hk
  · obtain ⟨n, rfl⟩ := Int.eq_ofNat_of_zero_le hk
    simp
  · obtain ⟨n, hn⟩ := Int.eq_ofNat_of_zero_le (Int.neg_nonneg.mpr hk)
    obtain rfl : k = -n := by omega
    simp

theorem holds_bounds {g : Grid} {c : Nat} (h : g.holds c = true) :
    g.low * g.quarter ≤ c * g.unit ∧ c * g.unit ≤ g.high * g.quarter := by
  unfold Grid.holds at h
  split at h
  · simpa using h
  · rw [Bool.and_eq_true, decide_eq_true_eq, decide_eq_true_eq] at h
    exact ⟨Nat.le_of_lt h.1, Nat.le_of_lt h.2⟩

theorem nearest?_holds {g : Grid} {c : Nat} (h : g.nearest? = some c) : g.holds c = true := by
  unfold Grid.nearest? at h
  simp only at h
  split at h
  · cases h
  · rename_i hbelow _
    exact Option.some.inj h ▸ hbelow
  · rename_i _ habove
    exact Option.some.inj h ▸ habove
  · rename_i hbelow habove
    -- Both neighbours read back, and the nearer one is taken.
    split at h
    · exact Option.some.inj h ▸ hbelow
    · split at h
      · exact Option.some.inj h ▸ habove
      · rw [← Option.some.inj h]
        split
        · exact hbelow
        · exact habove

namespace Binary

variable {b : Binary}

/-- Half way from a number to the number above it. -/
def above (b : Binary) : ℚ := (b.mantissa + 1 / 2) * 2 ^ b.exponent

/-- What lies on the grid and reads back as the number is no further away. -/
theorem grid_holds {g : Int} {c : Nat} (hb : 0 < b.mantissa) (h : (b.grid g).holds c = true) :
    0 < c ∧ (c : ℚ) * 10 ^ g ≤ b.above := by
  obtain ⟨hlow, hhigh⟩ := holds_bounds h
  constructor
  · apply Nat.pos_of_ne_zero
    rintro rfl
    have hquarter : 0 < (b.grid g).quarter :=
      Nat.mul_pos (Nat.pow_pos (by decide)) (Nat.pow_pos (by decide))
    have hsome : 0 < (b.grid g).low := by
      simp only [grid]
      split <;> omega
    have := Nat.mul_pos hsome hquarter
    omega
  · have hcross : (c : ℚ) * (2 ^ (2 - b.exponent).toNat * 10 ^ g.toNat) ≤
        (4 * b.mantissa + 2) * (2 ^ (b.exponent - 2).toNat * 10 ^ (-g).toNat) := by
      exact_mod_cast hhigh
    have hneg : -(b.exponent - 2) = 2 - b.exponent := by omega
    have habove : b.above = (4 * b.mantissa + 2) * 2 ^ (b.exponent - 2) := by
      unfold above
      rw [zpow_sub₀ (by norm_num)]
      ring
    rw [habove, zpow_eq_div 10 g, zpow_eq_div 2 (b.exponent - 2), hneg, ← mul_div_assoc,
      ← mul_div_assoc, div_le_div_iff₀ (by positivity) (by positivity)]
    calc (c : ℚ) * 10 ^ g.toNat * 2 ^ (2 - b.exponent).toNat
        = c * (2 ^ (2 - b.exponent).toNat * 10 ^ g.toNat) := by ring
      _ ≤ (4 * b.mantissa + 2) * (2 ^ (b.exponent - 2).toNat * 10 ^ (-g).toNat) := hcross
      _ = (4 * b.mantissa + 2) * 2 ^ (b.exponent - 2).toNat * 10 ^ (-g).toNat := by ring

theorem above_nonneg (b : Binary) : 0 ≤ b.above := by
  unfold above
  positivity

theorem zero_spec (b : Binary) :
    Decimal.value ⟨0, 0⟩ ≤ b.above ∧ Decimal.IsPlain ⟨0, 0⟩ := by
  have hzero : Decimal.value ⟨0, 0⟩ = 0 := by
    unfold Decimal.value
    norm_num
  exact ⟨hzero.trans_le b.above_nonneg, fun _ => rfl⟩

theorem search_spec (hb : 0 < b.mantissa) (magnitude : Int) (digits fuel : Nat) :
    (b.search magnitude digits fuel).value ≤ b.above ∧
      (b.search magnitude digits fuel).IsPlain := by
  induction fuel generalizing digits with
  | zero => exact b.zero_spec
  | succ fuel ih =>
    simp only [search]
    split
    · rename_i c hc
      obtain ⟨hpos, hle⟩ := grid_holds hb (nearest?_holds hc)
      exact ⟨hle, fun hzero => absurd hzero (Nat.ne_of_gt hpos)⟩
    · exact ih (digits + 1)

/-- The shortest decimal of a number is no further away than half way to the number above it. -/
theorem shortest_spec (b : Binary) : b.shortest.value ≤ b.above ∧ b.shortest.IsPlain := by
  unfold shortest
  split
  · exact b.zero_spec
  · rename_i hb
    rw [beq_iff_eq] at hb
    obtain ⟨hvalue, hplain⟩ := stripped_spec (b.search b.magnitude 1 17) 20
    obtain ⟨hle, hsearch⟩ := search_spec (Nat.pos_of_ne_zero hb) b.magnitude 1 17
    exact ⟨hvalue.trans_le hle, hplain hsearch⟩

end Binary

/-! ## Numerals -/

section Numerals

variable (negative : Bool) (digits : List Char)

/-- Digits with a point, as the parts of a number. -/
def pointedNumeral (point : Int) : Json.Numeral :=
  if point ≤ 0 then
    ⟨negative, ['0'], List.replicate (-point).toNat '0' ++ digits, none⟩
  else
    let rest := digits.drop point.toNat
    ⟨negative, digits.take point.toNat ++ List.replicate (point.toNat - digits.length) '0',
      if rest.isEmpty then ['0'] else rest, none⟩

/-- Digits with an exponent, as the parts of a number. -/
def scaledNumeral (exponent : Int) : Json.Numeral :=
  ⟨negative, digits.take 1, digits.drop 1,
    some (decide (exponent < 0), Nat.toDigits 10 exponent.natAbs)⟩

end Numerals

/-- The parts of the number that data formats write for a decimal. -/
def Decimal.numeral (negative : Bool) (d : Decimal) : Json.Numeral :=
  let digits := Nat.toDigits 10 d.digits
  let first := d.exponent + digits.length - 1
  if -5 ≤ first ∧ first ≤ 15 then pointedNumeral negative digits (first + 1)
  else scaledNumeral negative digits first

section Sound

variable {negative : Bool} {digits : List Char} (hne : digits ≠ [])
  (hdigits : ∀ c ∈ digits, c.isDigit = true)
include hne hdigits

theorem pointedNumeral_isSound {point : Int}
    (hzero : 0 < point → digits.head? = some '0' → digits = ['0'] ∧ point = 1) :
    (pointedNumeral negative digits point).isSound = true := by
  have hzeros : ∀ k, ∀ c ∈ List.replicate k '0', c.isDigit = true := fun k c hc => by
    rw [(List.mem_replicate.mp hc).2]
    rfl
  rw [Json.Numeral.isSound_iff]
  unfold pointedNumeral
  split
  · refine ⟨by simp, by simp, fun _ => rfl, ?_, nofun⟩
    exact List.forall_mem_append.mpr ⟨hzeros _, hdigits⟩
  · rename_i hpoint
    obtain ⟨c, rest, rfl⟩ := List.exists_cons_of_ne_nil hne
    obtain ⟨k, hk⟩ : ∃ k : Nat, point.toNat = k + 1 := ⟨point.toNat - 1, by omega⟩
    refine ⟨by simp [hk], ?_, fun hfront => ?_, ?_, nofun⟩
    · exact List.forall_mem_append.mpr ⟨fun c hc => hdigits c (List.mem_of_mem_take hc), hzeros _⟩
    · rw [hk, List.take_succ_cons, List.cons_append, List.head?_cons] at hfront
      obtain ⟨hdigits, rfl⟩ := hzero (by omega) hfront
      rw [hdigits]
      rfl
    · intro c hc
      simp only at hc
      split at hc
      · rw [List.mem_singleton.mp hc]
        rfl
      · exact hdigits c (List.mem_of_mem_drop hc)

theorem scaledNumeral_isSound (exponent : Int) :
    (scaledNumeral negative digits exponent).isSound = true := by
  obtain ⟨c, rest, rfl⟩ := List.exists_cons_of_ne_nil hne
  obtain ⟨hc, hrest⟩ := List.forall_mem_cons.mp hdigits
  rw [Json.Numeral.isSound_iff]
  refine ⟨by simp [scaledNumeral], List.forall_mem_singleton.mpr hc, fun hfront => ?_, hrest, ?_⟩
  · obtain rfl : c = '0' := Option.some.inj hfront
    rfl
  · rintro _ ⟨⟩
    exact ⟨toDigits_ne_nil _, isDigit_toDigits _⟩

end Sound

/-- What is written of a decimal is a number. -/
theorem Decimal.numeral_isSound (negative : Bool) {d : Decimal} (hd : d.IsPlain) :
    (d.numeral negative).isSound = true := by
  unfold Decimal.numeral
  simp only
  split
  · apply pointedNumeral_isSound (toDigits_ne_nil _) (isDigit_toDigits _)
    intro hpoint hfront
    have hzero := head?_toDigits _ hfront
    rw [hzero, hd hzero]
    exact ⟨Nat.toDigits_zero 10, rfl⟩
  · exact scaledNumeral_isSound (toDigits_ne_nil _) (isDigit_toDigits _) _

/-! ## Texts -/

/-- The number that data formats write for the bits of a float. -/
def figureOf (bits : UInt64) : Json.Figure where
  numeral := (Binary.ofBits bits).shortest.numeral (hasMinus bits)
  sound := Decimal.numeral_isSound _ (Binary.shortest_spec _).2
  capital := false
  plus := true

/-- The characters of a number without its sign, an exponent in the form in which floats have it. -/
def unsignedChars (n : Json.Numeral) : List Char :=
  n.whole ++ ((if n.fraction.isEmpty then [] else '.' :: n.fraction) ++
    match n.exponent with
    | none => []
    | some (negative, digits) => 'e' :: ((if negative then ['-'] else ['+']) ++ digits))

theorem toList_pointed (negative : Bool) {digits : List Char} (hne : digits ≠ []) (point : Int) :
    (pointed digits point).toList = unsignedChars (pointedNumeral negative digits point) := by
  unfold pointed pointedNumeral unsignedChars
  split
  · simp [String.toList_append, hne]
  · simp only [String.toList_append]
    split <;> simp [*]

theorem toList_scaled (negative : Bool) (digits : List Char) (exponent : Int) :
    (scaled digits exponent).toList = unsignedChars (scaledNumeral negative digits exponent) := by
  unfold scaled scaledNumeral unsignedChars
  simp only [String.toList_append]
  split <;> split <;> simp [*]

theorem toList_decimalText (negative : Bool) (d : Decimal) :
    (decimalText .data d).toList = unsignedChars (d.numeral negative) := by
  unfold decimalText Decimal.numeral FloatFormat.data
  simp only [Bool.and_eq_true, decide_eq_true_eq]
  split
  · exact toList_pointed negative (toDigits_ne_nil _) _
  · exact toList_scaled negative _ _

theorem numeral_isNegative (negative : Bool) (d : Decimal) :
    (d.numeral negative).isNegative = negative := by
  unfold Decimal.numeral pointedNumeral
  simp only
  split
  · split <;> rfl
  · rfl

/-- The text of a float is the number. -/
theorem chars_figureOf {bits : UInt64} (h : isFinite bits = true) :
    (figureOf bits).chars = (floatText .data bits).toList := by
  have hunsigned : (figureOf bits).chars =
      (if (figureOf bits).numeral.isNegative then ['-'] else []) ++
        unsignedChars (figureOf bits).numeral := by
    unfold Json.Figure.chars Json.Figure.sign Json.Figure.fraction Json.Figure.exponent
      unsignedChars
    cases (figureOf bits).numeral.exponent <;> rfl
  have hsign : (figureOf bits).numeral.isNegative = hasMinus bits := numeral_isNegative _ _
  rw [hunsigned, hsign]
  unfold floatText
  simp only
  rw [if_pos h, String.toList_append, toList_decimalText (hasMinus bits)]
  show _ = _ ++ unsignedChars (figureOf bits).numeral
  congr 1
  split <;> rfl

/-! ## Readings -/

/-- Digits are taken as long as the number fits, and those that are taken make it no larger than all
of them would. -/
theorem takeFitting_spec {n : Nat} (hn : n ≤ maxCount) (digits : List Char) :
    let taken := Json.takeFitting n digits
    n ≤ taken.1 ∧ taken.1 ≤ maxCount ∧ taken.2.length ≤ digits.length ∧
      taken.1 * 10 ^ taken.2.length ≤ continued n digits := by
  induction digits generalizing n with
  | nil => exact ⟨Nat.le_refl n, hn, Nat.le_refl 0, Nat.le_of_eq (Nat.mul_one n)⟩
  | cons c digits ih =>
    simp only [Json.takeFitting]
    split
    · rename_i hfits
      obtain ⟨hle, hmax, hlength, hvalue⟩ := ih hfits
      rw [continued_cons, List.length_cons]
      exact ⟨by omega, hmax, by omega, hvalue⟩
    · exact ⟨Nat.le_refl n, hn, Nat.le_refl _, mul_pow_le_continued n _⟩

/-- Digits that are few enough are all taken. -/
theorem takeFitting_all {digits : List Char} (hdigits : ∀ c ∈ digits, c.isDigit = true) {n k : Nat}
    (hn : n < 10 ^ k) (hk : k + digits.length ≤ 19) :
    (Json.takeFitting n digits).2 = [] ∧
      (Json.takeFitting n digits).1 < 10 ^ (k + digits.length) := by
  induction digits generalizing n k with
  | nil => exact ⟨rfl, hn⟩
  | cons c digits ih =>
    obtain ⟨hc, hdigits⟩ := List.forall_mem_cons.mp hdigits
    rw [List.length_cons] at hk
    have hvalue := digitValue_lt hc
    have hnext : n * 10 + digitValue c < 10 ^ (k + 1) := by
      rw [Nat.pow_succ]
      omega
    have hmax : 10 ^ (k + 1) ≤ 10 ^ 19 := Nat.pow_le_pow_right (by decide) (by omega)
    have hfits : n * 10 + digitValue c ≤ maxCount := by
      unfold maxCount
      omega
    simp only [Json.takeFitting]
    rw [if_pos hfits, List.length_cons, Nat.add_comm digits.length 1, ← Nat.add_assoc]
    exact ih hdigits hnext (by omega)

theorem float?_map_isSome {x : Option Float} (negative : Bool) (h : x.isSome = true) :
    (x.map (Json.signedFloat negative)).isSome = true := by
  rw [Option.isSome_map, h]

/-- Numbers with a point are scaled down, and found. -/
theorem float?_of_point {n : Json.Numeral} (hexponent : n.exponent = none)
    (hwhole : ∀ c ∈ n.whole, c.isDigit = true) (hlength : n.whole.length ≤ 16)
    (hfraction : ∀ c ∈ n.fraction, c.isDigit = true) (hne : n.fraction ≠ []) :
    n.float?.isSome = true := by
  obtain ⟨hall, hsmall⟩ := takeFitting_all hwhole (by decide : 0 < 10 ^ 0) (by omega)
  obtain ⟨c, rest, heq⟩ := List.exists_cons_of_ne_nil hne
  have hc : digitValue c < 10 := digitValue_lt (hfraction c (heq ▸ List.mem_cons_self))
  have hshift : n.significand.2 < 0 := by
    have hpower : 10 ^ (0 + n.whole.length) ≤ 10 ^ 16 :=
      Nat.pow_le_pow_right (by decide) (by omega)
    have hfits : (Json.takeFitting 0 n.whole).1 * 10 + digitValue c ≤ maxCount := by
      unfold maxCount
      omega
    obtain ⟨-, -, hunread, -⟩ := takeFitting_spec hfits rest
    simp only [Json.Numeral.significand, hall, heq, Json.takeFitting, if_pos hfits,
      List.length_nil, List.length_cons]
    omega
  unfold Json.Numeral.float? Json.Numeral.power?
  simp only [hexponent, Int.add_zero]
  apply float?_map_isSome
  unfold Json.scaledFloat?
  rw [if_neg (by omega)]
  rfl

theorem pointedNumeral_fraction (negative : Bool) {digits : List Char} (hne : digits ≠ [])
    (point : Int) : (pointedNumeral negative digits point).fraction ≠ [] := by
  unfold pointedNumeral
  split
  · exact List.append_ne_nil_of_right_ne_nil _ hne
  · simp only
    split
    · exact List.cons_ne_nil _ _
    · rename_i hrest
      exact fun hnil => hrest (List.isEmpty_iff.mpr hnil)

theorem pointedNumeral_float? {negative : Bool} {digits : List Char} (hne : digits ≠ [])
    {point : Int} (hpoint : point ≤ 16)
    (hsound : (pointedNumeral negative digits point).isSound = true) :
    (pointedNumeral negative digits point).float?.isSome = true := by
  obtain ⟨-, hwhole, -, hfraction, -⟩ := (Json.Numeral.isSound_iff _).mp hsound
  have hlength : (pointedNumeral negative digits point).whole.length ≤ 16 := by
    unfold pointedNumeral
    split
    · exact Nat.le_add_left 1 15
    · simp only [List.length_append, List.length_take, List.length_replicate]
      omega
  have hexponent : (pointedNumeral negative digits point).exponent = none := by
    unfold pointedNumeral
    split <;> rfl
  exact float?_of_point hexponent hwhole hlength hfraction (pointedNumeral_fraction _ hne _)

/-- The exponent of a number that may be read is not so large that it is not looked at. -/
theorem exponent_lt_of_readable {digits : Nat} {e : Int} {k : Nat} (hdigits : 10 ^ k ≤ digits)
    (hvalue : (digits : ℚ) * 10 ^ (e - k) ≤ readable) : e < 309 := by
  have hdigits' : (10 : ℚ) ^ k ≤ digits := by exact_mod_cast hdigits
  have hle : (10 : ℚ) ^ e ≤ digits * 10 ^ (e - k) :=
    calc (10 : ℚ) ^ e = 10 ^ k * 10 ^ (e - k) := by
          rw [← zpow_natCast, ← zpow_add₀ (by norm_num)]
          congr 1
          omega
      _ ≤ digits * 10 ^ (e - k) := mul_le_mul_of_nonneg_right hdigits' (by positivity)
  have hlt : (10 : ℚ) ^ e < 10 ^ (309 : Int) :=
    lt_of_le_of_lt (hle.trans hvalue) (by exact_mod_cast readable_bounds.2)
  exact (zpow_lt_zpow_iff_right₀ (by norm_num)).mp hlt

theorem digitValue_pos {c : Char} (hdigit : c.isDigit = true) (hc : c ≠ '0') :
    0 < digitValue c := by
  rw [isDigit_iff] at hdigit
  have hzero : c.toNat ≠ 48 := fun h => hc (Char.toNat_inj.mp h)
  unfold digitValue
  omega

theorem continued_digit (c : Char) (rest : List Char) :
    continued (digitValue c) rest = ofDigits (c :: rest) := by
  unfold continued ofDigits
  rw [List.foldl_cons, Nat.zero_mul, Nat.zero_add]

/-- Of the digits before an exponent, some are taken, and at least the first. -/
theorem scaledNumeral_significand (negative : Bool) {c : Char} (rest : List Char) (exponent : Int)
    (hdigit : c.isDigit = true) (hc : c ≠ '0') :
    ∃ n unread : Nat, (scaledNumeral negative (c :: rest) exponent).significand =
        (n, (unread : Int) - rest.length) ∧
      0 < n ∧ n ≤ maxCount ∧ n * 10 ^ unread ≤ ofDigits (c :: rest) := by
  have hten := digitValue_lt hdigit
  have hfirst := digitValue_pos hdigit hc
  have hfits : digitValue c ≤ maxCount := by
    unfold maxCount
    omega
  obtain ⟨hlow, hmax, hunread, htaken⟩ := takeFitting_spec hfits rest
  rw [continued_digit] at htaken
  refine ⟨_, _, ?_, by omega, hmax, htaken⟩
  simp only [Json.Numeral.significand, scaledNumeral, List.take_succ_cons, List.take_zero,
    List.drop_succ_cons, List.drop_zero, Json.takeFitting, Nat.zero_mul, Nat.zero_add,
    if_pos hfits, List.length_nil]
  congr 1
  omega

theorem scaledNumeral_power? (negative : Bool) (digits : List Char) (exponent : Int) :
    (scaledNumeral negative digits exponent).power? =
      if exponent.natAbs ≤ Json.maxExponent then some exponent else none := by
  simp only [Json.Numeral.power?, scaledNumeral, ofDigits_toDigits, decide_eq_true_eq]
  congr 2
  split <;> omega

/-- Numbers with an exponent are found if they may be read. -/
theorem scaledNumeral_float? (negative : Bool) {c : Char} {rest : List Char} {exponent : Int}
    (hdigit : c.isDigit = true) (hc : c ≠ '0')
    (hvalue : (ofDigits (c :: rest) : ℚ) * 10 ^ (exponent - rest.length) ≤ readable) :
    (scaledNumeral negative (c :: rest) exponent).float?.isSome = true := by
  obtain ⟨n, unread, hsignificand, hpos, hmax, htaken⟩ :=
    scaledNumeral_significand negative rest exponent hdigit hc
  unfold Json.Numeral.float?
  simp only [hsignificand, scaledNumeral_power?]
  by_cases hlooked : exponent.natAbs ≤ Json.maxExponent
  · rw [if_pos hlooked]
    apply float?_map_isSome
    apply scaledFloat?_isSome hpos hmax
    have htaken' : (n : ℚ) * 10 ^ unread ≤ ofDigits (c :: rest) := by exact_mod_cast htaken
    calc (n : ℚ) * 10 ^ ((unread : Int) - rest.length + exponent)
        = n * 10 ^ unread * 10 ^ (exponent - rest.length) := by
          rw [mul_assoc, ← zpow_natCast, ← zpow_add₀ (by norm_num)]
          congr 2
          omega
      _ ≤ ofDigits (c :: rest) * 10 ^ (exponent - rest.length) :=
          mul_le_mul_of_nonneg_right htaken' (by positivity)
      _ ≤ readable := hvalue
  · have hfirst : 10 ^ rest.length ≤ ofDigits (c :: rest) := by
      rw [← continued_digit]
      calc 10 ^ rest.length ≤ digitValue c * 10 ^ rest.length :=
            Nat.le_mul_of_pos_left _ (digitValue_pos hdigit hc)
        _ ≤ continued (digitValue c) rest := mul_pow_le_continued _ rest
    have hsmall := exponent_lt_of_readable hfirst hvalue
    have hnegative : exponent < 0 := by
      unfold Json.maxExponent at hlooked
      omega
    -- The number is too small to be looked at, and read as zero.
    rw [if_neg hlooked]
    simp [scaledNumeral, hnegative]

theorem Decimal.numeral_float? (negative : Bool) {d : Decimal} (hd : d.IsPlain)
    (hvalue : d.value ≤ readable) : (d.numeral negative).float?.isSome = true := by
  have hsound := Decimal.numeral_isSound negative hd
  unfold Decimal.numeral at hsound ⊢
  simp only at hsound ⊢
  split at hsound
  · rename_i hrange
    rw [if_pos hrange]
    exact pointedNumeral_float? (toDigits_ne_nil _) (by omega) hsound
  · rename_i hrange
    rw [if_neg hrange]
    obtain ⟨c, rest, hdigits⟩ := List.exists_cons_of_ne_nil (toDigits_ne_nil d.digits)
    have hof : ofDigits (c :: rest) = d.digits := hdigits ▸ ofDigits_toDigits d.digits
    rw [hdigits] at hrange ⊢
    refine scaledNumeral_float? negative ?_ ?_ ?_
    · exact isDigit_toDigits d.digits c (hdigits ▸ List.mem_cons_self)
    · -- Zero has no exponent, and is written with a point.
      rintro rfl
      have hzero := head?_toDigits d.digits (by rw [hdigits]; rfl)
      have hlast : rest = [] := by
        rw [hzero, Nat.toDigits_zero] at hdigits
        exact (List.cons.inj hdigits).2.symm
      rw [hd hzero, hlast] at hrange
      exact hrange (by decide)
    · have hexponent : d.exponent + ((c :: rest).length : Nat) - 1 - rest.length = d.exponent := by
        rw [List.length_cons]
        omega
      rw [hof, hexponent]
      exact hvalue

/-! ## Floats -/

theorem ofBits_bounds {bits : UInt64} (h : isFinite bits = true) :
    (Binary.ofBits bits).mantissa < 2 ^ 53 ∧ (Binary.ofBits bits).exponent ≤ 971 ∧
      ((Binary.ofBits bits).exponent = 971 → 2 ^ 52 < (Binary.ofBits bits).mantissa →
        (Binary.ofBits bits).atEdge = false) := by
  have hfraction : fractionField bits < 2 ^ 52 := Nat.mod_lt _ (by decide)
  have hfield : exponentField bits < 2048 := Nat.mod_lt _ (by decide)
  unfold isFinite topExponent at h
  rw [bne_iff_ne] at h
  have hsize : fractionSize = 2 ^ 52 := rfl
  by_cases hzero : exponentField bits = 0
  · have heq : Binary.ofBits bits = ⟨fractionField bits, -1074, false⟩ := by
      simp only [Binary.ofBits, beq_iff_eq, if_pos hzero]
    rw [heq]
    exact ⟨by simp only; omega, (by decide : (-1074 : Int) ≤ 971), fun _ _ => rfl⟩
  · have heq : Binary.ofBits bits = ⟨fractionSize + fractionField bits,
        (exponentField bits : Int) - 1075, fractionField bits == 0 && exponentField bits > 1⟩ := by
      simp only [Binary.ofBits, beq_iff_eq, if_neg hzero]
    rw [heq]
    refine ⟨by simp only; omega, by simp only; omega, fun _ hedge => ?_⟩
    have hne : (fractionField bits == 0) = false := by
      rw [beq_eq_false_iff_ne]
      simp only at hedge
      omega
    simp only [hne, Bool.false_and]

/-- Half way above a number that is not one of the six largest may be read. -/
theorem above_le_readable {b : Binary} (hm : b.mantissa < 2 ^ 53) (he : b.exponent ≤ 971)
    (hbelow : b.exponent = 971 → b.mantissa ≤ 2 ^ 53 - 7) : b.above ≤ readable := by
  unfold Binary.above readable
  by_cases htop : b.exponent = 971
  · have hm' : 2 * (b.mantissa : ℚ) + 1 + 13 ≤ 2 ^ 54 := by
      have := hbelow htop
      exact_mod_cast (by omega : 2 * b.mantissa + 1 + 13 ≤ 2 ^ 54)
    have hpower : (2 : ℚ) ^ (971 : Int) = 2 ^ 970 * 2 := by
      rw [show (971 : Int) = (970 : Nat) + 1 from rfl, zpow_add_one₀ (by norm_num), zpow_natCast]
    rw [htop, hpower]
    calc ((b.mantissa : ℚ) + 1 / 2) * (2 ^ 970 * 2)
        = (2 * b.mantissa + 1) * 2 ^ 970 := by
          generalize (2 : ℚ) ^ 970 = power
          ring
      _ ≤ (2 ^ 54 - 13) * 2 ^ 970 :=
          mul_le_mul_of_nonneg_right (le_sub_iff_add_le.mpr hm') (by positivity)
  · have hm' : (b.mantissa : ℚ) + 1 / 2 ≤ 2 ^ 54 - 13 := by
      have hlt : (b.mantissa : ℚ) < 2 ^ 53 := by exact_mod_cast hm
      linarith
    have hpower : (2 : ℚ) ^ b.exponent ≤ 2 ^ 970 := by
      rw [← zpow_natCast]
      exact zpow_le_zpow_right₀ (by norm_num) (by omega)
    exact mul_le_mul hm' hpower (by positivity) (by norm_num)

/-- The six largest numbers are read, too. -/
theorem largest_float? : ((List.range 6).all fun k => [false, true].all fun negative =>
    ((Binary.shortest ⟨2 ^ 53 - 1 - k, 971, false⟩).numeral negative).float?.isSome) = true := by
  decide +kernel

theorem numeral_isWhole (negative : Bool) (d : Decimal) : (d.numeral negative).isWhole = false := by
  unfold Decimal.numeral Json.Numeral.isWhole
  simp only
  split
  · rw [List.isEmpty_eq_false_iff.mpr (pointedNumeral_fraction _ (toDigits_ne_nil _) _),
      Bool.false_and]
  · exact Bool.and_false _

/-- The text of a finite float is read as a number. -/
theorem figureOf_value? {bits : UInt64} (h : isFinite bits = true) :
    (figureOf bits).numeral.value?.isSome = true := by
  have hfloat : (figureOf bits).numeral.value? = (figureOf bits).numeral.float? := by
    unfold Json.Numeral.value?
    simp only [figureOf, numeral_isWhole, Bool.false_and, Bool.false_eq_true, if_false]
  rw [hfloat]
  obtain ⟨hm, he, hedge⟩ := ofBits_bounds h
  obtain ⟨hvalue, hplain⟩ := (Binary.ofBits bits).shortest_spec
  by_cases hlarge : (Binary.ofBits bits).exponent = 971 ∧
      2 ^ 53 - 7 < (Binary.ofBits bits).mantissa
  · obtain ⟨htop, hlow⟩ := hlarge
    have hrange : 2 ^ 53 - 1 - (Binary.ofBits bits).mantissa ∈ List.range 6 := by
      rw [List.mem_range]
      omega
    have hall := List.all_eq_true.mp (List.all_eq_true.mp largest_float? _ hrange) (hasMinus bits)
      (by cases hasMinus bits <;> decide)
    have hsame : 2 ^ 53 - 1 - (2 ^ 53 - 1 - (Binary.ofBits bits).mantissa) =
        (Binary.ofBits bits).mantissa := by omega
    rw [hsame, ← htop, ← hedge htop (by omega)] at hall
    exact hall
  · apply Decimal.numeral_float? _ hplain
    exact hvalue.trans (above_le_readable hm he fun htop => by omega)

end FeedSearch.Number
