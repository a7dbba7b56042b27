-- Stamps of moments read back. The text of a moment has each field in full width,
-- and the loose reader takes exactly these fields, whatever the year, however fine
-- the second, and through a leap second.
import FeedSearch.Proofs.CalendarDays
import FeedSearch.Proofs.DecimalDigits
import FeedSearch.Proofs.TrimmedTexts

namespace FeedSearch.Time

/-! ## Blanks -/

theorem isBlank_of_isDigit {c : Char} (h : c.isDigit = true) : Text.isBlank c = false := by
  rw [Number.isDigit_iff] at h
  unfold Text.isBlank
  simp only [Bool.or_eq_false_iff, Bool.and_eq_false_iff, decide_eq_false_iff_not,
    beq_eq_false_iff_ne]
  omega

theorem trimStart_cons {c : Char} (hc : Text.isBlank c = false) (rest : List Char) :
    Text.trimStart (c :: rest) = c :: rest := by
  apply Text.trimStart_eq_self
  rintro _ ⟨⟩
  exact hc

theorem trimStart_padded (width n : Nat) (rest : List Char) :
    Text.trimStart ((Number.padded width n).toList ++ rest) =
      (Number.padded width n).toList ++ rest := by
  obtain ⟨c, digits, hdigits⟩ := List.exists_cons_of_ne_nil (Number.padded_ne_nil width n)
  have hc : c.isDigit = true := Number.isDigit_padded width n c (hdigits ▸ List.mem_cons_self)
  rw [hdigits, List.cons_append]
  exact trimStart_cons (isBlank_of_isDigit hc) _

/-! ## Fields of digits -/

section Digits

variable {digits rest : List Char} (hdigits : ∀ c ∈ digits, c.isDigit = true) (hne : digits ≠ [])
include hdigits hne

/-- A field of a width takes as many digits, whatever follows them. -/
theorem digitsField_full {width : Nat} (hwidth : digits.length = width) :
    digitsField (some width) (digits ++ rest) = .ok (Number.ofDigits digits, rest) := by
  have hrun : ((digits ++ rest).takeWhile Char.isDigit).take width = digits := by
    rw [List.takeWhile_append_of_pos hdigits, ← hwidth, List.take_left]
  unfold digitsField
  simp only [hrun, List.drop_left]
  rw [if_neg (by simp [hne]), if_neg (by simp [hne])]

/-- A field without a width takes all digits. -/
theorem digitsField_run (hrest : rest.takeWhile Char.isDigit = []) :
    digitsField none (digits ++ rest) = .ok (Number.ofDigits digits, rest) := by
  have hrun : (digits ++ rest).takeWhile Char.isDigit = digits := by
    rw [List.takeWhile_append_of_pos hdigits, hrest, List.append_nil]
  unfold digitsField
  simp only [hrun, List.drop_left]
  rw [if_neg (by simp [hne]), if_neg (by simp [hne])]

end Digits

theorem digitsField_padded {width n : Nat} (hwidth : 0 < width) (hn : n < 10 ^ width)
    (rest : List Char) :
    digitsField (some width) ((Number.padded width n).toList ++ rest) = .ok (n, rest) := by
  rw [digitsField_full (Number.isDigit_padded width n) (Number.padded_ne_nil width n)
    (Number.length_padded hwidth hn), Number.ofDigits_padded]

theorem digitsField_padded_run (width n : Nat) {rest : List Char}
    (hrest : rest.takeWhile Char.isDigit = []) :
    digitsField none ((Number.padded width n).toList ++ rest) = .ok (n, rest) := by
  rw [digitsField_run (Number.isDigit_padded width n) (Number.padded_ne_nil width n) hrest,
    Number.ofDigits_padded]

theorem boundedField_padded {low high n : Nat} (hlow : low ≤ n) (hhigh : n ≤ high)
    (hn : n < 100) (rest : List Char) :
    boundedField 2 low high ((Number.padded 2 n).toList ++ rest) = .ok (n, rest) := by
  unfold boundedField
  rw [trimStart_padded, digitsField_padded (by decide) hn]
  exact if_pos ⟨hlow, hhigh⟩

theorem markField_cons {c : Char} (hc : Text.isBlank c = false) (rest : List Char) :
    markField c (c :: rest) = .ok rest := by
  unfold markField
  rw [trimStart_cons hc]
  exact if_pos (beq_self_eq_true c)

/-! ## Years and fractions -/

/-- A year that is kept is one of 32 bits. The bounds are named, for nothing is to be computed with
them. -/
theorem exists_bounds {year : Int} (hfirst : firstYear ≤ year) (hlast : year ≤ lastYear) :
    ∃ low high : Int, low = -0x80000000 ∧ high = 0x80000000 ∧ low ≤ year ∧ year < high := by
  unfold firstYear at hfirst
  unfold lastYear at hlast
  exact ⟨_, _, rfl, rfl, by omega, by omega⟩

section Years

variable {year : Int} (hfirst : firstYear ≤ year) (hlast : year ≤ lastYear) {rest : List Char}
  (hrest : rest.takeWhile Char.isDigit = [])
include hfirst hlast

/-- Four digits are read as a year: no digit is a sign. -/
theorem yearField_plain (hplain : 0 ≤ year ∧ year ≤ 9999) :
    yearField ((Number.padded 4 year.toNat).toList ++ rest) = .ok (year, rest) := by
  obtain ⟨low, high, hlow, hhigh, hfits⟩ := exists_bounds hfirst hlast
  obtain ⟨n, rfl⟩ := Int.eq_ofNat_of_zero_le hplain.1
  obtain ⟨c, digits, hdigits⟩ := List.exists_cons_of_ne_nil (Number.padded_ne_nil 4 n)
  have hc : c.isDigit = true := Number.isDigit_padded 4 n c (hdigits ▸ List.mem_cons_self)
  have hread := digitsField_padded (by decide) (by omega : n < 10 ^ 4) rest
  unfold yearField
  rw [Int.toNat_natCast, trimStart_padded, ← hlow, ← hhigh]
  rw [hdigits, List.cons_append] at hread ⊢
  split
  · rename_i heq
    obtain rfl := (List.cons.inj heq).1
    exact absurd hc (by decide)
  · rename_i heq
    obtain rfl := (List.cons.inj heq).1
    exact absurd hc (by decide)
  · simp only [hread, bind, Except.bind, pure, Except.pure]
    exact if_pos hfits

include hrest

theorem yearField_minus (hneg : year < 0) :
    yearField ('-' :: ((Number.padded 4 year.natAbs).toList ++ rest)) = .ok (year, rest) := by
  obtain ⟨low, high, hlow, hhigh, hfits⟩ := exists_bounds hfirst hlast
  have habs : -(year.natAbs : Int) = year := by omega
  unfold yearField
  rw [trimStart_cons (by decide), ← hlow, ← hhigh]
  simp only [digitsField_padded_run 4 _ hrest, habs, bind, Except.bind, pure, Except.pure]
  exact if_pos hfits

theorem yearField_plus (hpos : 0 ≤ year) :
    yearField ('+' :: ((Number.padded 4 year.natAbs).toList ++ rest)) = .ok (year, rest) := by
  obtain ⟨low, high, hlow, hhigh, hfits⟩ := exists_bounds hfirst hlast
  have habs : (year.natAbs : Int) = year := by omega
  unfold yearField
  rw [trimStart_cons (by decide), ← hlow, ← hhigh]
  simp only [digitsField_padded_run 4 _ hrest, habs, bind, Except.bind, pure, Except.pure]
  exact if_pos hfits

/-- Years of any number of digits are read, a sign in front if there is one. -/
theorem yearField_text :
    yearField ((Moment.yearText year).toList ++ rest) = .ok (year, rest) := by
  unfold Moment.yearText
  split
  · rename_i hplain
    exact yearField_plain hfirst hlast hplain
  · rw [String.toList_append, List.append_assoc]
    split
    · rename_i hneg
      rw [show "-".toList = ['-'] from rfl, List.singleton_append]
      exact yearField_minus hfirst hlast hrest hneg
    · rename_i hpos
      rw [show "+".toList = ['+'] from rfl, List.singleton_append]
      exact yearField_plus hfirst hlast hrest (Int.not_lt.mp hpos)

end Years

theorem nanosField_padded {width k : Nat} (hwidth : 0 < width) (hnine : width ≤ 9)
    (hk : k < 10 ^ width) {rest : List Char} (hrest : rest.takeWhile Char.isDigit = []) :
    nanosField ('.' :: ((Number.padded width k).toList ++ rest)) =
      .ok (k * 10 ^ (9 - width), rest) := by
  have hlength := Number.length_padded hwidth hk
  have hrun : ((Number.padded width k).toList ++ rest).takeWhile Char.isDigit =
      (Number.padded width k).toList := by
    rw [List.takeWhile_append_of_pos (Number.isDigit_padded width k), hrest, List.append_nil]
  have hnanos : fractionNanos (Number.padded width k).toList = k * 10 ^ (9 - width) := by
    unfold fractionNanos
    rw [List.take_of_length_le (by omega), Number.ofDigits_padded, hlength]
    rfl
  simp only [nanosField]
  rw [digitsField_padded_run width k hrest, hrun, hnanos]
  rfl

/-- A fraction of any width is read exactly. -/
theorem nanosField_text {nanos : Nat} (h : nanos < nanosPerSecond) (rest : List Char) :
    nanosField ((Moment.fractionText nanos).toList ++ 'Z' :: rest) = .ok (nanos, 'Z' :: rest) := by
  have hrest : ('Z' :: rest).takeWhile Char.isDigit = [] := rfl
  unfold nanosPerSecond at h
  unfold Moment.fractionText
  simp only [beq_iff_eq]
  split
  · rename_i hzero
    rw [hzero]
    rfl
  · split
    · rename_i hmilli
      have hread := nanosField_padded (by decide) (by decide)
        (by omega : nanos / 1000000 < 10 ^ 3) hrest
      rw [show nanos / 1000000 * 10 ^ (9 - 3) = nanos by omega] at hread
      rwa [String.toList_append]
    · split
      · rename_i hmicro
        have hread := nanosField_padded (by decide) (by decide)
          (by omega : nanos / 1000 < 10 ^ 6) hrest
        rw [show nanos / 1000 * 10 ^ (9 - 6) = nanos by omega] at hread
        rwa [String.toList_append]
      · have hread := nanosField_padded (by decide) (by decide) (by omega : nanos < 10 ^ 9) hrest
        rw [show nanos * 10 ^ (9 - 9) = nanos by omega] at hread
        rwa [String.toList_append]

/-! ## Moments -/

/-- What a clock can tell: a moment of the years that are kept, with a second or more of nanoseconds
in no second but the last of a minute. -/
structure Moment.IsTold (m : Moment) : Prop where
  inYears : m.inYears = true
  nanos : m.nanos < nanosPerSecond ∨ m.nanos < 2 * nanosPerSecond ∧ m.seconds % 60 = 59

namespace Moment

variable {m : Moment}

/-- The fields that the text of a moment shows. -/
def fields (m : Moment) : StampFields where
  date := Date.ofDays m.day
  hour := m.secondOfDay / 3600
  minute := m.secondOfDay / 60 % 60
  second := if m.inLeapSecond then m.secondOfDay % 60 + 1 else m.secondOfDay % 60
  nanos := m.nanos % nanosPerSecond
  offset := 0

theorem secondOfDay_lt (m : Moment) : m.secondOfDay < 86400 := by
  unfold secondOfDay secondsPerDay
  omega

theorem day_secondOfDay (m : Moment) : m.day * 86400 + m.secondOfDay = m.seconds := by
  unfold day secondOfDay secondsPerDay
  omega

theorem IsTold.secondOfDay_of_leap (h : m.IsTold) (hleap : m.inLeapSecond = true) :
    m.secondOfDay % 60 = 59 ∧ m.nanos % nanosPerSecond + nanosPerSecond = m.nanos := by
  have hnanos := h.nanos
  have hday := m.day_secondOfDay
  simp only [inLeapSecond, decide_eq_true_eq] at hleap
  unfold nanosPerSecond at hnanos hleap ⊢
  omega

/-- The loose reader takes the fields of a text, and nothing behind them. -/
theorem stampFields_text (h : m.IsTold) : stampFields m.text.toList = .ok (m.fields, []) := by
  obtain ⟨hfirst, hlast⟩ := year_of_inYears h.inYears
  obtain ⟨hmonth, hmonth', hday, hday', -⟩ := Date.place_spec m.day
  have hday'' := Nat.le_trans hday' (daysInMonth_le _ _)
  have htime := m.secondOfDay_lt
  have hsecond : m.fields.second ≤ 60 := by
    simp only [fields]
    split <;> omega
  have hnanos : m.nanos % nanosPerSecond < nanosPerSecond := Nat.mod_lt _ (by decide)
  have htext : m.text.toList =
      (yearText m.fields.date.year).toList ++
        '-' :: ((Number.padded 2 m.fields.date.month).toList ++
          '-' :: ((Number.padded 2 m.fields.date.day).toList ++
            'T' :: ((Number.padded 2 m.fields.hour).toList ++
              ':' :: ((Number.padded 2 m.fields.minute).toList ++
                ':' :: ((Number.padded 2 m.fields.second).toList ++
                  ((fractionText m.fields.nanos).toList ++ ['Z'])))))) := by
    have hdash : "-".toList = ['-'] := rfl
    have hcolon : ":".toList = [':'] := rfl
    have hseparator : "T".toList = ['T'] := rfl
    have hend : "Z".toList = ['Z'] := rfl
    simp only [text, fields, String.toList_append, List.append_assoc, hdash, hcolon, hseparator,
      hend, List.cons_append, List.nil_append]
  have hyear (rest) : yearField ((yearText m.fields.date.year).toList ++ '-' :: rest) =
      .ok (m.fields.date.year, '-' :: rest) := yearField_text hfirst hlast rfl
  have hdash (rest) : markField '-' ('-' :: rest) = .ok rest := markField_cons (by decide) rest
  have hcolon (rest) : markField ':' (':' :: rest) = .ok rest := markField_cons (by decide) rest
  have hmonths := boundedField_padded (n := m.fields.date.month) hmonth hmonth'
    (Nat.lt_of_le_of_lt hmonth' (by decide))
  have hdays := boundedField_padded (n := m.fields.date.day) hday hday''
    (Nat.lt_of_le_of_lt hday'' (by decide))
  have hhours := boundedField_padded (Nat.zero_le m.fields.hour)
    (by simp only [fields]; omega : _ ≤ 23) (by simp only [fields]; omega)
  have hminutes := boundedField_padded (Nat.zero_le m.fields.minute)
    (by simp only [fields]; omega : _ ≤ 59) (by simp only [fields]; omega)
  have hseconds := boundedField_padded (Nat.zero_le m.fields.second) hsecond (by omega)
  have hseparator (rest) : separatorField ('T' :: rest) = .ok rest := rfl
  have hfraction : nanosField ((fractionText m.fields.nanos).toList ++ ['Z']) =
      .ok (m.fields.nanos, ['Z']) := nanosField_text hnanos []
  have hend : offsetField (Text.trimStart ['Z']) = .ok (0, []) := rfl
  rw [htext]
  simp only [stampFields, hyear, hdash, hcolon, hmonths, hdays, hhours, hminutes, hseconds,
    hseparator, hfraction, hend, bind, Except.bind]
  rfl

/-- The fields of a moment name it. -/
theorem moment_fields (h : m.IsTold) : m.fields.moment = .ok m := by
  obtain ⟨hfirst, hlast⟩ := year_of_inYears h.inYears
  have hvalid : (!m.fields.date.isValid || decide (m.fields.date.year < firstYear) ||
      decide (lastYear < m.fields.date.year)) = false := by
    show (!(Date.ofDays m.day).isValid || decide ((Date.ofDays m.day).year < firstYear) ||
      decide (lastYear < (Date.ofDays m.day).year)) = false
    rw [Date.ofDays_isValid, decide_eq_false (Int.not_lt.mpr hfirst),
      decide_eq_false (Int.not_lt.mpr hlast)]
    rfl
  have hsame : (⟨m.fields.date.toDays * secondsPerDay + (m.fields.hour * 3600 +
      m.fields.minute * 60 + (if m.fields.second == 60 then 59 else m.fields.second) : Nat) -
        m.fields.offset,
      if m.fields.second == 60 then m.fields.nanos + nanosPerSecond else m.fields.nanos⟩ : Moment)
        = ⟨m.seconds, m.nanos⟩ := by
    have hday := m.day_secondOfDay
    have hlength : secondsPerDay = 86400 := rfl
    by_cases hleap : m.inLeapSecond = true
    · obtain ⟨hsecond, hnanos⟩ := h.secondOfDay_of_leap hleap
      have hsixty : m.fields.second = 60 := by rw [fields, if_pos hleap, hsecond]
      rw [hsixty]
      simp only [fields, Date.toDays_ofDays, hnanos, hlength, Moment.mk.injEq, and_true,
        beq_self_eq_true, if_true]
      omega
    · have hplain : m.fields.second = m.secondOfDay % 60 := by rw [fields, if_neg hleap]
      have hbelow : (m.secondOfDay % 60 == 60) = false := by
        rw [beq_eq_false_iff_ne]
        omega
      have hnanos : m.nanos % nanosPerSecond = m.nanos := by
        simp only [inLeapSecond, decide_eq_true_eq] at hleap
        exact Nat.mod_eq_of_lt (Nat.not_le.mp hleap)
      rw [hplain, hbelow]
      simp only [fields, Date.toDays_ofDays, hnanos, hlength, Moment.mk.injEq, and_true,
        Bool.false_eq_true, if_false]
      omega
  unfold StampFields.moment
  simp only
  rw [hvalid, hsame, h.inYears]
  rfl

/-- The text of a moment reads back as the moment. -/
theorem looseStamp_text (h : m.IsTold) : looseStamp m.text = .ok m := by
  unfold looseStamp
  rw [stampFields_text h]
  exact moment_fields h

end Moment

end FeedSearch.Time
