-- Decimal digits. A run of digits is the shortest run for its number with zeros
-- before it, and counts are read from exactly these runs, as far as they fit.
import FeedSearch.Number.Numeral
import Mathlib.Data.List.Basic
import Mathlib.Data.List.Induction
import Mathlib.Data.Nat.Digits.Defs

namespace FeedSearch.Number

/-! ## Single digits -/

theorem isDigit_iff (c : Char) : c.isDigit = true ↔ 48 ≤ c.toNat ∧ c.toNat ≤ 57 := by
  have hrange : c.isDigit = (decide ('0'.val ≤ c.val) && decide (c.val ≤ '9'.val)) := rfl
  rw [hrange, Bool.and_eq_true, decide_eq_true_eq, decide_eq_true_eq]
  simp [UInt32.le_iff_toNat_le]

theorem digitValue_lt {c : Char} (hc : c.isDigit = true) : digitValue c < 10 := by
  rw [isDigit_iff] at hc
  unfold digitValue
  omega

theorem digitChar_digitValue {c : Char} (hc : c.isDigit = true) :
    Nat.digitChar (digitValue c) = c := by
  have hvalue : ∀ d < 10, (Nat.digitChar d).toNat = 48 + d := by decide
  have hlt := digitValue_lt hc
  apply Char.toNat_inj.mp
  rw [hvalue _ hlt]
  rw [isDigit_iff] at hc
  unfold digitValue
  omega

/-- Below ten, hexadecimal digits are digits. -/
theorem hexValue?_below_ten (c : Char) :
    (Text.hexValue? c).filter (· < 10) = if c.isDigit then some (digitValue c) else none := by
  have hle : ∀ a b : Char, a ≤ b ↔ a.toNat ≤ b.toNat := fun a b => by
    rw [Char.le_def, UInt32.le_iff_toNat_le]
    rfl
  have h0 : '0'.toNat = 48 := rfl
  have h9 : '9'.toNat = 57 := rfl
  have ha : 'a'.toNat = 97 := rfl
  have hf : 'f'.toNat = 102 := rfl
  have hA : 'A'.toNat = 65 := rfl
  have hF : 'F'.toNat = 70 := rfl
  simp only [Text.hexValue?, isDigit_iff, hle, h0, h9, ha, hf, hA, hF]
  by_cases hdigit : 48 ≤ c.toNat ∧ c.toNat ≤ 57
  · have hsmall : c.toNat - 48 < 10 := by omega
    simp [hdigit, hsmall, digitValue]
  · rw [if_neg hdigit, if_neg hdigit]
    split
    · have hlarge : 10 ≤ c.toNat - 87 := by omega
      simp [hlarge]
    · split
      · have hlarge : 10 ≤ c.toNat - 55 := by omega
        simp [hlarge]
      · rfl

/-! ## Runs of digits -/

/-- The number that `n` becomes by further digits. -/
def continued (n : Nat) (digits : List Char) : Nat :=
  digits.foldl (fun n c => n * 10 + digitValue c) n

theorem continued_cons (n : Nat) (c : Char) (digits : List Char) :
    continued n (c :: digits) = continued (n * 10 + digitValue c) digits := by
  unfold continued
  rw [List.foldl_cons]

theorem le_continued (n : Nat) (digits : List Char) : n ≤ continued n digits := by
  induction digits generalizing n with
  | nil => exact Nat.le_refl n
  | cons c digits ih =>
    have hnext := ih (n * 10 + digitValue c)
    rw [continued_cons]
    omega

theorem mul_pow_le_continued (n : Nat) (digits : List Char) :
    n * 10 ^ digits.length ≤ continued n digits := by
  induction digits generalizing n with
  | nil => exact Nat.le_of_eq (Nat.mul_one n)
  | cons c digits ih =>
    rw [continued_cons, List.length_cons, Nat.pow_succ]
    calc n * (10 ^ digits.length * 10) = n * 10 * 10 ^ digits.length := by
          rw [Nat.mul_assoc, Nat.mul_comm 10]
      _ ≤ (n * 10 + digitValue c) * 10 ^ digits.length :=
          Nat.mul_le_mul_right _ (Nat.le_add_right _ _)
      _ ≤ continued (n * 10 + digitValue c) digits := ih _

theorem ofDigits_append_digit (digits : List Char) (c : Char) :
    ofDigits (digits ++ [c]) = ofDigits digits * 10 + digitValue c := by
  unfold ofDigits
  rw [List.foldl_append]
  rfl

theorem ofDigits_zeros (zeros : Nat) (digits : List Char) :
    ofDigits (List.replicate zeros '0' ++ digits) = ofDigits digits := by
  induction zeros with
  | zero => rfl
  | succ zeros ih =>
    rw [List.replicate_succ, List.cons_append]
    exact ih

theorem ofDigits_toDigits (n : Nat) : ofDigits (Nat.toDigits 10 n) = n := by
  have hstep : (fun (n : Nat) (c : Char) => n * 10 + digitValue c) =
      fun sofar c => 10 * sofar + (c.toNat - '0'.toNat) := by
    funext n c
    rw [Nat.mul_comm]
    rfl
  rw [ofDigits, hstep]
  exact Nat.ofDigitChars_ten_toDigits

/-- Only zero is written with a zero at the front. -/
theorem head?_toDigits (n : Nat) : (Nat.toDigits 10 n).head? = some '0' → n = 0 := by
  induction n using Nat.base_induction 10 (by decide) with
  | single m hm => simp [Nat.toDigits_of_lt_base hm]
  | digit m k hk hm ih =>
    rw [← Nat.toDigits_append_toDigits (by decide) hm hk, List.head?_append_of_ne_nil _ (by simp)]
    intro hzero
    exact absurd (ih hzero) (Nat.ne_of_gt hm)

theorem isDigit_toDigits (n : Nat) : ∀ c ∈ Nat.toDigits 10 n, c.isDigit = true :=
  fun _ hc => Nat.isDigit_of_mem_toDigits (by decide) (by decide) hc

theorem toDigits_ne_nil (n : Nat) : Nat.toDigits 10 n ≠ [] :=
  List.ne_nil_of_length_pos Nat.length_toDigits_pos

theorem isDigit_zeros (zeros n : Nat) :
    ∀ c ∈ List.replicate zeros '0' ++ Nat.toDigits 10 n, c.isDigit = true := by
  intro c hc
  rcases List.mem_append.mp hc with hzero | hdigit
  · rw [(List.mem_replicate.mp hzero).2]
    rfl
  · exact isDigit_toDigits n c hdigit

/-- A run of digits is the shortest run for its number, with zeros before it. -/
theorem exists_zeros {digits : List Char} (hne : digits ≠ [])
    (hdigits : ∀ c ∈ digits, c.isDigit = true) :
    ∃ zeros, digits = List.replicate zeros '0' ++ Nat.toDigits 10 (ofDigits digits) := by
  induction digits using List.reverseRecOn with
  | nil => exact absurd rfl hne
  | append_singleton digits c ih =>
    have hc : c.isDigit = true := hdigits c (by simp)
    have hlast : Nat.toDigits 10 (digitValue c) = [c] := by
      rw [Nat.toDigits_of_lt_base (digitValue_lt hc), digitChar_digitValue hc]
    rw [ofDigits_append_digit]
    by_cases hnil : digits = []
    · refine ⟨0, ?_⟩
      have hzero : ofDigits digits = 0 := by rw [hnil]; rfl
      rw [hzero, Nat.zero_mul, Nat.zero_add, hlast, hnil]
      rfl
    · obtain ⟨zeros, heq⟩ := ih hnil fun v hv => hdigits v (List.mem_append_left _ hv)
      by_cases hzero : ofDigits digits = 0
      · -- One more zero: the shortest run of zero was a zero itself.
        refine ⟨zeros + 1, ?_⟩
        rw [hzero, Nat.toDigits_zero] at heq
        rw [hzero, Nat.zero_mul, Nat.zero_add, hlast, heq, List.replicate_succ']
      · refine ⟨zeros, ?_⟩
        have hsnoc := Nat.toDigits_append_toDigits (b := 10) (by decide)
          (Nat.pos_of_ne_zero hzero) (digitValue_lt hc)
        rw [hlast] at hsnoc
        rw [Nat.mul_comm, ← hsnoc, ← List.append_assoc, ← heq]

/-! ## Padded digits -/

theorem toList_padded (width n : Nat) : (padded width n).toList =
    List.replicate (width - (Nat.toDigits 10 n).length) '0' ++ Nat.toDigits 10 n :=
  String.toList_ofList

theorem isDigit_padded (width n : Nat) : ∀ c ∈ (padded width n).toList, c.isDigit = true := by
  rw [toList_padded]
  exact isDigit_zeros _ n

theorem ofDigits_padded (width n : Nat) : ofDigits (padded width n).toList = n := by
  rw [toList_padded, ofDigits_zeros, ofDigits_toDigits]

theorem padded_ne_nil (width n : Nat) : (padded width n).toList ≠ [] := by
  rw [toList_padded]
  exact List.append_ne_nil_of_right_ne_nil _ (toDigits_ne_nil n)

theorem length_padded {width n : Nat} (hwidth : 0 < width) (hn : n < 10 ^ width) :
    (padded width n).toList.length = width := by
  have hle := (Nat.length_toDigits_le_iff (by decide) hwidth).mpr hn
  rw [toList_padded, List.length_append, List.length_replicate]
  omega

/-! ## Numerals -/

/-- A numeral of a number: its digits, zeros before them and a plus sign before these, as one
likes. -/
def IsNumeral (n : Nat) (s : List Char) : Prop :=
  ∃ sign zeros, (sign = [] ∨ sign = ['+']) ∧
    s = sign ++ (List.replicate zeros '0' ++ Nat.toDigits 10 n)

theorem appendDigits_ok_iff {most n : Nat} (hn : n ≤ most) (digits : List Char) (m : Nat) :
    appendDigits 10 most n digits = .ok m ↔
      (∀ c ∈ digits, c.isDigit = true) ∧ continued n digits = m ∧ m ≤ most := by
  induction digits generalizing n with
  | nil =>
    constructor
    · intro h
      obtain rfl : n = m := Except.ok.inj h
      exact ⟨nofun, rfl, hn⟩
    · rintro ⟨-, rfl, -⟩
      rfl
  | cons c digits ih =>
    rw [appendDigits, hexValue?_below_ten, List.forall_mem_cons]
    by_cases hc : c.isDigit = true
    · rw [if_pos hc]
      dsimp only
      by_cases hfits : n * 10 + digitValue c ≤ most
      · rw [if_pos hfits, ih hfits, continued_cons]
        exact ⟨fun h => ⟨⟨hc, h.1⟩, h.2⟩, fun h => ⟨h.1.2, h.2⟩⟩
      · -- Further digits do not make the number smaller.
        rw [if_neg hfits]
        refine ⟨nofun, ?_⟩
        rintro ⟨-, hm, hle⟩
        have hgrows := le_continued (n * 10 + digitValue c) digits
        rw [continued_cons] at hm
        omega
    · rw [if_neg hc]
      exact ⟨nofun, fun h => absurd h.1.1 hc⟩

/-- Runs of digits as they are read from the first digit on. -/
theorem appendDigits_zero_iff {most : Nat} {digits : List Char} (hne : digits ≠ []) (m : Nat) :
    appendDigits 10 most 0 digits = .ok m ↔
      m ≤ most ∧ ∃ zeros, digits = List.replicate zeros '0' ++ Nat.toDigits 10 m := by
  rw [appendDigits_ok_iff (Nat.zero_le most)]
  constructor
  · rintro ⟨hdigits, rfl, hle⟩
    exact ⟨hle, exists_zeros hne hdigits⟩
  · rintro ⟨hle, zeros, rfl⟩
    exact ⟨isDigit_zeros zeros m, (ofDigits_zeros zeros _).trans (ofDigits_toDigits m), hle⟩

/-- No run of digits starts with a sign. -/
theorem digits_ne_plus {n zeros : Nat} {rest : List Char} :
    List.replicate zeros '0' ++ Nat.toDigits 10 n ≠ '+' :: rest := by
  intro h
  have hplus : '+' ∈ List.replicate zeros '0' ++ Nat.toDigits 10 n := by
    rw [h]
    exact List.mem_cons_self
  exact absurd (isDigit_zeros zeros n _ hplus) (by decide)

theorem isNumeral_plus_iff (n : Nat) (digits : List Char) :
    IsNumeral n ('+' :: digits) ↔
      ∃ zeros, digits = List.replicate zeros '0' ++ Nat.toDigits 10 n := by
  constructor
  · rintro ⟨sign, zeros, rfl | rfl, h⟩
    · exact absurd h.symm digits_ne_plus
    · exact ⟨zeros, (List.cons.inj h).2⟩
  · rintro ⟨zeros, rfl⟩
    exact ⟨['+'], zeros, Or.inr rfl, rfl⟩

theorem isNumeral_iff_of_ne_plus {s : List Char} (hs : ∀ rest, s ≠ '+' :: rest) (n : Nat) :
    IsNumeral n s ↔ ∃ zeros, s = List.replicate zeros '0' ++ Nat.toDigits 10 n := by
  constructor
  · rintro ⟨sign, zeros, rfl | rfl, h⟩
    · exact ⟨zeros, h⟩
    · exact absurd h (hs _)
  · rintro ⟨zeros, rfl⟩
    exact ⟨[], zeros, Or.inl rfl, rfl⟩

/-- Counts are read from numerals, and from nothing else. -/
theorem countUpTo_ok_iff (most : Nat) (s : String) (n : Nat) :
    countUpTo most s = .ok n ↔ n ≤ most ∧ IsNumeral n s.toList := by
  have hsome : ∀ zeros, [] ≠ List.replicate zeros '0' ++ Nat.toDigits 10 n := fun zeros h =>
    toDigits_ne_nil n (List.append_eq_nil_iff.mp h.symm).2
  unfold countUpTo
  split
  · rename_i hnil
    have hplus : ∀ rest, ([] : List Char) ≠ '+' :: rest := fun rest h => nomatch h
    rw [hnil, isNumeral_iff_of_ne_plus hplus]
    refine ⟨nofun, ?_⟩
    rintro ⟨-, zeros, h⟩
    exact absurd h (hsome zeros)
  · rename_i hplus
    rw [hplus, isNumeral_plus_iff]
    refine ⟨nofun, ?_⟩
    rintro ⟨-, zeros, h⟩
    exact absurd h (hsome zeros)
  · rename_i digits hne hplus
    rw [hplus, isNumeral_plus_iff]
    exact appendDigits_zero_iff hne n
  · rename_i hnil _ hplus
    rw [isNumeral_iff_of_ne_plus hplus]
    exact appendDigits_zero_iff hnil n

theorem count?_iff (s : String) (n : Nat) :
    count? s = some n ↔ n ≤ maxCount ∧ IsNumeral n s.toList := by
  rw [← countUpTo_ok_iff]
  unfold count? countUpTo?
  cases countUpTo maxCount s <;> simp [Except.toOption]

end FeedSearch.Number
