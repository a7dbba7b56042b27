-- Texts without the blanks at their ends. Trimming finds what stands between the
-- blanks, leaves it alone from then on, and leaves nothing of a blank text only.
import FeedSearch.Text.Blank
import Mathlib.Data.List.DropRight

namespace FeedSearch.Text

/-! ## Ends of a text -/

theorem trimChars_front (s : List Char) : ∀ c ∈ (trimChars s).head?, isBlank c = false := by
  intro c hc
  have hprefix : trimChars s <+: trimStart s := List.rdropWhile_prefix isBlank (trimStart s)
  have hhead : (trimStart s).head? = some c := by
    obtain ⟨t, ht⟩ := hprefix
    rw [← ht, List.head?_append, hc]
    rfl
  have hdropped := List.head?_dropWhile_not isBlank s
  unfold trimStart at hhead
  rw [hhead] at hdropped
  exact Bool.eq_false_iff.mpr (by simpa using hdropped)

theorem trimChars_back (s : List Char) : ∀ c ∈ (trimChars s).getLast?, isBlank c = false := by
  intro c hc
  have hdropped := List.head?_dropWhile_not isBlank (trimStart s).reverse
  unfold trimChars trimEnd at hc
  rw [List.getLast?_reverse] at hc
  rw [hc] at hdropped
  exact Bool.eq_false_iff.mpr (by simpa using hdropped)

theorem trimStart_eq_self {s : List Char} (hfront : ∀ c ∈ s.head?, isBlank c = false) :
    trimStart s = s := by
  cases s with
  | nil => rfl
  | cons c s =>
    have hc : isBlank c = false := hfront c rfl
    unfold trimStart
    rw [List.dropWhile_cons_of_neg (by simp [hc])]

theorem trimEnd_eq_self {s : List Char} (hback : ∀ c ∈ s.getLast?, isBlank c = false) :
    trimEnd s = s := by
  apply List.rdropWhile_eq_self_iff.mpr
  intro hne
  have hlast := hback _ (List.getLast?_eq_getLast_of_ne_nil hne)
  simp [hlast]

theorem trim_trim (s : String) : trim (trim s) = trim s := by
  have htwice : trimChars (trimChars s.toList) = trimChars s.toList :=
    calc trimChars (trimChars s.toList)
        = trimEnd (trimChars s.toList) :=
          congrArg trimEnd (trimStart_eq_self (trimChars_front s.toList))
      _ = trimChars s.toList := trimEnd_eq_self (trimChars_back s.toList)
  unfold trim
  rw [String.toList_ofList, htwice]

/-! ## Words between blanks -/

/-- Trimming finds a word between blanks, if there is no blank in it. -/
theorem trimChars_around {before word after : List Char} (hword : ∀ c ∈ word, isBlank c = false)
    (hbefore : ∀ c ∈ before, isBlank c = true) (hafter : ∀ c ∈ after, isBlank c = true) :
    trimChars (before ++ (word ++ after)) = word := by
  have hstart : trimStart (before ++ (word ++ after)) = trimStart (word ++ after) :=
    List.dropWhile_append_of_pos hbefore
  unfold trimChars
  rw [hstart]
  cases word with
  | nil =>
    have hnone : trimStart ([] ++ after) = [] := List.dropWhile_eq_nil_iff.mpr hafter
    rw [hnone]
    rfl
  | cons c word =>
    have hc : isBlank c = false := hword c List.mem_cons_self
    have hfront : trimStart (c :: word ++ after) = c :: word ++ after := by
      apply trimStart_eq_self
      intro v hv
      obtain rfl : c = v := Option.some.inj hv
      exact hc
    have hback : trimEnd (c :: word ++ after) = trimEnd (c :: word) := by
      unfold trimEnd
      rw [List.reverse_append, List.dropWhile_append_of_pos]
      intro v hv
      exact hafter v (List.mem_reverse.mp hv)
    rw [hfront, hback]
    apply trimEnd_eq_self
    intro v hv
    exact hword v (List.mem_of_getLast? hv)

/-- Every text is what trimming leaves of it, between blanks. -/
theorem exists_around (s : List Char) :
    ∃ before after, s = before ++ (trimChars s ++ after) ∧
      (∀ c ∈ before, isBlank c = true) ∧ ∀ c ∈ after, isBlank c = true := by
  refine ⟨s.takeWhile isBlank, (trimStart s).rtakeWhile isBlank, ?_, ?_, ?_⟩
  · have hend : trimChars s ++ (trimStart s).rtakeWhile isBlank = trimStart s :=
      List.rdropWhile_append_rtakeWhile
    rw [hend]
    exact List.takeWhile_append_dropWhile.symm
  · intro c hc
    exact List.mem_takeWhile_imp hc
  · intro c hc
    exact List.mem_rtakeWhile_imp hc

/-! ## Blank texts -/

theorem all_dropWhile {α : Type} (p : α → Bool) (s : List α) : (s.dropWhile p).all p = s.all p := by
  induction s with
  | nil => rfl
  | cons a rest ih =>
    by_cases ha : p a = true
    · rw [List.dropWhile_cons_of_pos ha, ih, List.all_cons, ha, Bool.true_and]
    · rw [List.dropWhile_cons_of_neg ha]

/-- A text is blank exactly if what trimming leaves of it is. -/
theorem isBlankText_trim (s : String) : isBlankText (trim s) = isBlankText s := by
  unfold isBlankText trim trimChars trimEnd trimStart
  rw [String.toList_ofList, List.all_reverse, all_dropWhile, List.all_reverse, all_dropWhile]

/-- Trimming leaves nothing of a blank text, and something of any other. -/
theorem trim_eq_empty_iff (s : String) : trim s = "" ↔ isBlankText s = true := by
  constructor
  · intro hempty
    rw [← isBlankText_trim, hempty]
    rfl
  · intro hblank
    have hnone : trimStart s.toList = [] := by
      unfold trimStart
      rw [List.dropWhile_eq_nil_iff]
      exact List.all_eq_true.mp hblank
    unfold trim trimChars
    rw [hnone]
    rfl

theorem trim_ne_empty {s : String} (h : isBlankText s = false) : trim s ≠ "" := by
  rw [ne_eq, trim_eq_empty_iff, h]
  decide

end FeedSearch.Text
