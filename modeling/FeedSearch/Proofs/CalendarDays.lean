-- The laws of the calendar. Years and months divide the days among themselves, so
-- that every day has one date, and the date leads back to the day.
import FeedSearch.Time.LooseStamp

namespace FeedSearch.Time

/-! ## Years -/

theorem isLeapYear_iff (year : Int) :
    isLeapYear year = true ↔ year % 4 = 0 ∧ (year % 100 ≠ 0 ∨ year % 400 = 0) := by
  simp [isLeapYear]

theorem leapYearsBefore_succ (year : Int) :
    leapYearsBefore (year + 1) = leapYearsBefore year + if isLeapYear year then 1 else 0 := by
  simp only [isLeapYear_iff, leapYearsBefore]
  split <;> omega

theorem yearStart_succ (year : Int) :
    yearStart (year + 1) = yearStart year + 365 + if isLeapYear year then 1 else 0 := by
  unfold yearStart
  rw [leapYearsBefore_succ]
  omega

theorem yearStart_mono {a b : Int} (h : a ≤ b) : yearStart a ≤ yearStart b := by
  unfold yearStart leapYearsBefore
  omega

/-- A day between the starts of two years lies in one of the years between them. -/
theorem year_of_between {first last year days : Int} (hlow : yearStart first ≤ days)
    (hhigh : days < yearStart (last + 1)) (hfrom : yearStart year ≤ days)
    (hto : days < yearStart (year + 1)) : first ≤ year ∧ year ≤ last := by
  constructor
  · apply Int.not_lt.mp
    intro hlt
    have := yearStart_mono (by omega : year + 1 ≤ first)
    omega
  · apply Int.not_lt.mp
    intro hlt
    have := yearStart_mono (by omega : last + 1 ≤ year)
    omega

/-- The mean length of years gives a guess that is off by one at most. -/
theorem guess_near (days : Int) :
    yearStart (1970 + days * 400 / 146097 - 1) ≤ days ∧
      days < yearStart (1970 + days * 400 / 146097 + 2) := by
  unfold yearStart leapYearsBefore
  omega

/-- A day lies in its year. -/
theorem yearOfDay_spec (days : Int) :
    yearStart (Date.yearOfDay days) ≤ days ∧ days < yearStart (Date.yearOfDay days + 1) := by
  obtain ⟨hlow, hhigh⟩ := guess_near days
  unfold Date.yearOfDay
  generalize 1970 + days * 400 / 146097 = guess at hlow hhigh ⊢
  simp only
  split
  · rename_i hbefore
    exact ⟨hlow, by rwa [Int.sub_add_cancel]⟩
  · split
    · rename_i hafter
      exact ⟨hafter, by rwa [Int.add_assoc]⟩
    · omega

/-! ## Months -/

theorem daysBeforeMonth_succ (year : Int) {month : Nat} (h : 1 ≤ month) :
    daysBeforeMonth year (month + 1) = daysBeforeMonth year month + daysInMonth year month := by
  obtain ⟨month, rfl⟩ := Nat.exists_eq_add_of_le' h
  rfl

/-- The months of a year have all its days. -/
theorem daysBeforeMonth_thirteen (year : Int) :
    (daysBeforeMonth year 13 : Int) = yearStart (year + 1) - yearStart year := by
  have hlength : daysBeforeMonth year 13 = 365 + if isLeapYear year then 1 else 0 := by
    simp only [daysBeforeMonth, daysInMonth]
    cases isLeapYear year with
    | false => rfl
    | true => rfl
  rw [yearStart_succ, hlength]
  split
  · omega
  · omega

theorem daysInMonth_le (year : Int) (month : Nat) : daysInMonth year month ≤ 31 := by
  unfold daysInMonth
  split
  · split <;> decide
  · split <;> decide

/-- The place of a day that is found from a month on: the month has it, and as many days lie before
it as were to be counted. -/
theorem monthOfDay_spec (year : Int) (later : Nat) {rest month : Nat} (hmonth : 1 ≤ month)
    (hrest : daysBeforeMonth year month + rest < daysBeforeMonth year (month + later + 1)) :
    let place := Date.monthOfDay year rest month later
    month ≤ place.1 ∧ place.1 ≤ month + later ∧
      1 ≤ place.2 ∧ place.2 ≤ daysInMonth year place.1 ∧
      daysBeforeMonth year place.1 + place.2 = daysBeforeMonth year month + rest + 1 := by
  induction later generalizing rest month with
  | zero =>
    rw [Nat.add_zero, daysBeforeMonth_succ year hmonth] at hrest
    simp only [Date.monthOfDay]
    omega
  | succ later ih =>
    simp only [Date.monthOfDay]
    split
    · simp only
      omega
    · rename_i hlong
      have hnext := daysBeforeMonth_succ year hmonth
      have hshort : daysBeforeMonth year (month + 1) + (rest - daysInMonth year month) <
          daysBeforeMonth year (month + 1 + later + 1) := by
        rw [Nat.add_right_comm month 1 later]
        show _ < daysBeforeMonth year (month + (later + 1) + 1)
        omega
      have := ih (by omega : 1 ≤ month + 1) hshort
      simp only at this
      omega

/-! ## Dates -/

namespace Date

theorem isValid_iff (d : Date) : d.isValid = true ↔
    1 ≤ d.month ∧ d.month ≤ 12 ∧ 1 ≤ d.day ∧ d.day ≤ daysInMonth d.year d.month := by
  simp [isValid, and_assoc]

theorem place_spec (days : Int) :
    let d := ofDays days
    1 ≤ d.month ∧ d.month ≤ 12 ∧ 1 ≤ d.day ∧ d.day ≤ daysInMonth d.year d.month ∧
      yearStart d.year + daysBeforeMonth d.year d.month + d.day = days + 1 := by
  obtain ⟨hlow, hhigh⟩ := yearOfDay_spec days
  have hlength := daysBeforeMonth_thirteen (yearOfDay days)
  have hrest : daysBeforeMonth (yearOfDay days) 1 + (days - yearStart (yearOfDay days)).toNat <
      daysBeforeMonth (yearOfDay days) (1 + 11 + 1) := by
    show 0 + _ < daysBeforeMonth _ 13
    omega
  obtain ⟨hfirst, hlast, hday, hin, hsum⟩ := monthOfDay_spec _ 11 (Nat.le_refl 1) hrest
  refine ⟨hfirst, hlast, hday, hin, ?_⟩
  show yearStart (yearOfDay days) + _ + _ = _
  have hone : daysBeforeMonth (yearOfDay days) 1 = 0 := rfl
  simp only [ofDays]
  omega

/-- The calendar has the date of every day. -/
theorem ofDays_isValid (days : Int) : (ofDays days).isValid = true := by
  obtain ⟨hfirst, hlast, hday, hin, -⟩ := place_spec days
  exact (isValid_iff _).mpr ⟨hfirst, hlast, hday, hin⟩

/-- A date leads back to its day. -/
theorem toDays_ofDays (days : Int) : (ofDays days).toDays = days := by
  obtain ⟨-, -, -, -, hsum⟩ := place_spec days
  unfold toDays
  omega

end Date

/-- A moment of the years that are kept has its date in one of them. -/
theorem Moment.year_of_inYears {m : Moment} (h : m.inYears = true) :
    firstYear ≤ (Date.ofDays m.day).year ∧ (Date.ofDays m.day).year ≤ lastYear := by
  simp only [Moment.inYears, Bool.and_eq_true, decide_eq_true_eq] at h
  obtain ⟨hfrom, hto⟩ := yearOfDay_spec m.day
  exact year_of_between h.1 h.2 hfrom hto

end FeedSearch.Time
