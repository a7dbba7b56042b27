-- The words of a text in lower case. A blank ends a word whatever stands around
-- it, lower case makes no blank and drops none, and the rule for a final sigma
-- never looks past a blank. So a text may be brought into lower case and into the
-- form of single spaces first: its words are the same words in lower case.
import FeedSearch.Text.Blank
import FeedSearch.Text.Lowercase

namespace FeedSearch.Text

/-! ## Words -/

@[simp] theorem words_nil : words [] = [] := by simp [words]

/-- A blank ends the word before it and belongs to none. -/
theorem words_append_blank (s t : List Char) {b : Char} (hb : isBlank b = true) :
    words (s ++ b :: t) = words s ++ words t := by
  unfold words
  rw [List.splitOnP_append_cons s t hb, List.filter_append]

theorem words_cons_blank (t : List Char) {b : Char} (hb : isBlank b = true) :
    words (b :: t) = words t := by
  simpa using words_append_blank [] t hb

/-- A text without blanks is one word. -/
theorem words_of_no_blank {w : List Char} (hw : ∀ c ∈ w, isBlank c = false) (hne : w ≠ []) :
    words w = [w] := by
  rw [words, List.splitOnP_eq_singleton hw]
  simp [hne]

/-- Blanks in front of a text are in none of its words. -/
theorem words_blanks_append {t : List Char} (ht : ∀ c ∈ t, isBlank c = true) (s : List Char) :
    words (t ++ s) = words s := by
  induction t with
  | nil => rfl
  | cons b t ih =>
    rw [List.cons_append, words_cons_blank _ (ht b (.head _))]
    exact ih fun c hc => ht c (.tail b hc)

/-- Blanks after a text are in none of its words. -/
theorem words_append_blanks (s : List Char) {t : List Char} (ht : ∀ c ∈ t, isBlank c = true) :
    words (s ++ t) = words s := by
  cases t with
  | nil => rw [List.append_nil]
  | cons b t =>
    have hrest : words t = [] := by
      simpa using words_blanks_append (fun c hc => ht c (.tail b hc)) []
    rw [words_append_blank s t (ht b (.head _)), hrest, List.append_nil]

/-- A text is a word, maybe an empty one, or such a word, a blank and a text. -/
theorem blank_induction {P : List Char → Prop}
    (word : ∀ w, (∀ c ∈ w, isBlank c = false) → P w)
    (gap : ∀ w b t, (∀ c ∈ w, isBlank c = false) → isBlank b = true → P t → P (w ++ b :: t))
    (s : List Char) : P s := by
  -- the word that is being read is the accumulator
  suffices h : ∀ (s w : List Char), (∀ c ∈ w, isBlank c = false) → P (w ++ s) from
    h s [] (by simp)
  intro s
  induction s with
  | nil => intro w hw; rw [List.append_nil]; exact word w hw
  | cons c s ih =>
    intro w hw
    by_cases hc : isBlank c = true
    · exact gap w c s hw hc (ih [] (by simp))
    · have hw' : ∀ x ∈ w ++ [c], isBlank x = false := by
        simp only [List.mem_append, List.mem_singleton]
        rintro x (hx | rfl)
        · exact hw x hx
        · exact Bool.eq_false_iff.mpr hc
      rw [List.append_cons]
      exact ih (w ++ [c]) hw'

/-! ## Single spaces -/

theorem words_trimStart (s : List Char) : words (trimStart s) = words s := by
  have hblank : ∀ c ∈ s.takeWhile isBlank, isBlank c = true := fun c hc =>
    List.all_eq_true.mp (List.all_takeWhile (p := isBlank)) c hc
  calc words (trimStart s)
      = words (s.takeWhile isBlank ++ s.dropWhile isBlank) := (words_blanks_append hblank _).symm
    _ = words s := by rw [List.takeWhile_append_dropWhile]

theorem words_trimEnd (s : List Char) : words (trimEnd s) = words s := by
  have hblank : ∀ c ∈ (s.reverse.takeWhile isBlank).reverse, isBlank c = true := fun c hc =>
    List.all_eq_true.mp (List.all_takeWhile (p := isBlank)) c (List.mem_reverse.mp hc)
  calc words (trimEnd s)
      = words (trimEnd s ++ (s.reverse.takeWhile isBlank).reverse) :=
        (words_append_blanks _ hblank).symm
    _ = words s := by
        rw [trimEnd, ← List.reverse_append, List.takeWhile_append_dropWhile, List.reverse_reverse]

/-- One space for each run of blanks leaves every word, also one that has been begun before. -/
theorem words_squeezeFrom (s : List Char) :
    (∀ w, words (w ++ squeezeFrom false s) = words (w ++ s)) ∧
      words (squeezeFrom true s) = words s := by
  induction s with
  | nil => exact ⟨fun _ => rfl, rfl⟩
  | cons c s ih =>
    by_cases hc : isBlank c = true
    · simp only [squeezeFrom, if_pos hc, Bool.false_eq_true, if_false, if_true]
      refine ⟨fun w => ?_, ?_⟩
      · rw [words_append_blank w _ (by decide), words_append_blank w s hc, ih.2]
      · rw [ih.2, words_cons_blank s hc]
    · simp only [squeezeFrom, if_neg hc]
      refine ⟨fun w => ?_, ih.1 [c]⟩
      rw [List.append_cons, List.append_cons w c s]
      exact ih.1 (w ++ [c])

/-- The form of single spaces has the words of the text. -/
theorem words_spaced (s : String) : words (spaced s).toList = words s.toList := by
  rw [spaced, String.toList_ofList, squeeze, ← List.nil_append (squeezeFrom _ _),
    (words_squeezeFrom _).1, List.nil_append, trimChars, words_trimEnd, words_trimStart]

/-! ## Blanks and letter case -/

/-- The blanks as ranges of code points. -/
def blankRanges : List (Nat × Nat) := [
  (9, 13), (0x20, 0x20), (0x85, 0x85), (0xA0, 0xA0), (0x1680, 0x1680), (0x2000, 0x200A),
  (0x2028, 0x2029), (0x202F, 0x202F), (0x205F, 0x205F), (0x3000, 0x3000)]

theorem isBlank_eq (c : Char) : isBlank c = inRanges blankRanges c.toNat := by
  rw [Bool.eq_iff_iff]
  simp [isBlank, inRanges, blankRanges]
  omega

theorem inRanges_iff {ranges : List (Nat × Nat)} {n : Nat} :
    inRanges ranges n = true ↔ ∃ r ∈ ranges, r.1 ≤ n ∧ n ≤ r.2 := by
  simp [inRanges]

/-- Two classes of characters whose ranges lie apart have no character in common. -/
theorem not_inRanges_of_apart {ranges others : List (Nat × Nat)}
    (hapart : ∀ r ∈ ranges, ∀ o ∈ others, r.2 < o.1 ∨ o.2 < r.1) {n : Nat}
    (hn : inRanges ranges n = true) : inRanges others n = false := by
  obtain ⟨r, hr, hlow, hhigh⟩ := inRanges_iff.mp hn
  rw [Bool.eq_false_iff, Ne, inRanges_iff]
  rintro ⟨o, ho, holow, hohigh⟩
  have := hapart r hr o ho
  omega

theorem isCased_of_isBlank {b : Char} (hb : isBlank b = true) : isCased b = false :=
  not_inRanges_of_apart (by decide +kernel) (isBlank_eq b ▸ hb)

theorem isCaseIgnorable_of_isBlank {b : Char} (hb : isBlank b = true) : isCaseIgnorable b = false :=
  not_inRanges_of_apart (by decide +kernel) (isBlank_eq b ▸ hb)

/-- Neither the characters of a run nor their small forms are blanks. -/
theorem smallForms_apart_from_blanks : ∀ run ∈ smallForms, ∀ r ∈ blankRanges,
    (r.2 < run.first ∨ run.last < r.1) ∧
      (r.2 < run.target ∨ run.target + (run.last - run.first) < r.1) := by
  decide +kernel

theorem smallForm?_blank {b : Char} (hb : isBlank b = true) : smallForm? b.toNat = none := by
  obtain ⟨r, hr, hlow, hhigh⟩ := inRanges_iff.mp (isBlank_eq b ▸ hb)
  simp only [smallForm?, Option.map_eq_none_iff, List.find?_eq_none]
  intro run hrun hcovers
  simp only [CaseRun.covers, Bool.and_eq_true, decide_eq_true_eq] at hcovers
  have := (smallForms_apart_from_blanks run hrun r hr).1
  omega

theorem toNat_ofNat (n : Nat) : (Char.ofNat n).toNat = n ∨ (Char.ofNat n).toNat = 0 := by
  by_cases h : n.isValidChar
  · refine Or.inl ?_
    rw [Char.ofNat, dif_pos h]
    rfl
  · exact Or.inr (by simp [Char.ofNat, h])

theorem isBlank_smallForm {n m : Nat} (h : smallForm? n = some m) :
    isBlank (Char.ofNat m) = false := by
  obtain ⟨run, hfind, rfl⟩ := Option.map_eq_some_iff.mp h
  have hcovers := List.find?_some hfind
  simp only [CaseRun.covers, Bool.and_eq_true, decide_eq_true_eq] at hcovers
  rw [isBlank_eq, Bool.eq_false_iff, Ne, inRanges_iff]
  rintro ⟨r, hr, hlow, hhigh⟩
  have hapart := (smallForms_apart_from_blanks run (List.mem_of_find?_eq_some hfind) r hr).2
  have hpositive : ∀ r ∈ blankRanges, 0 < r.1 := by decide
  have hfirst := hpositive r hr
  -- a number that is no code point reads as the first character, which is no blank
  rcases toNat_ofNat (run.small n) with hform | hform
  · rw [hform, CaseRun.small] at hlow hhigh
    omega
  · omega

/-- Among the characters of ASCII, case and blanks have nothing to do with each other. -/
theorem toLower_ascii : ∀ n < 0x80,
    isBlank (Char.ofNat n).toLower = isBlank (Char.ofNat n) ∧
      (isBlank (Char.ofNat n) = true → (Char.ofNat n).toLower = Char.ofNat n) := by
  decide

/-- A blank is its own lower case. -/
theorem lowerChar_blank {b : Char} (hb : isBlank b = true) : lowerChar b = [b] := by
  have hdotted : b.toNat ≠ 0x130 := by
    intro he
    rw [← Char.ofNat_toNat b, he] at hb
    exact absurd hb (by decide)
  unfold lowerChar
  split
  · rename_i hascii
    have := (toLower_ascii b.toNat hascii).2
    rw [Char.ofNat_toNat] at this
    rw [this hb]
  · simp [hdotted, smallForm?_blank hb]

/-- The lower case of a character that is no blank has no blank in it. -/
theorem lowerChar_no_blank {c : Char} (hc : isBlank c = false) :
    lowerChar c ≠ [] ∧ ∀ x ∈ lowerChar c, isBlank x = false := by
  unfold lowerChar
  split
  · rename_i hascii
    have := (toLower_ascii c.toNat hascii).1
    rw [Char.ofNat_toNat, hc] at this
    simpa using this
  · split
    · refine ⟨by simp, List.forall_mem_cons.mpr ⟨by decide, ?_⟩⟩
      exact List.forall_mem_singleton.mpr (by decide)
    · cases hform : smallForm? c.toNat with
      | none => simpa using hc
      | some m => simpa using isBlank_smallForm hform

/-! ## Lower case around a blank -/

/-- The rule for a final sigma does not look past a blank. -/
theorem meetsCased_append_blank (s t : List Char) {b : Char} (hb : isBlank b = true) :
    meetsCased (s ++ b :: t) = meetsCased s := by
  induction s with
  | nil => simp [meetsCased, isCaseIgnorable_of_isBlank hb, isCased_of_isBlank hb]
  | cons c s ih =>
    by_cases hc : isCaseIgnorable c = true
    · simpa [meetsCased, hc] using ih
    · simp [meetsCased, hc]

theorem lowerBetween_blank {b : Char} (hb : isBlank b = true) (before after : List Char) :
    lowerBetween before b after = [b] := by
  have hsigma : b ≠ 'Σ' := fun he => absurd hb (he ▸ by decide)
  simp [lowerBetween, hsigma, lowerChar_blank hb]

theorem lowerBetween_no_blank {c : Char} (hc : isBlank c = false) (before after : List Char) :
    lowerBetween before c after ≠ [] ∧ ∀ x ∈ lowerBetween before c after, isBlank x = false := by
  unfold lowerBetween
  split
  · split
    · exact ⟨by simp, List.forall_mem_singleton.mpr (by decide)⟩
    · exact ⟨by simp, List.forall_mem_singleton.mpr (by decide)⟩
  · exact lowerChar_no_blank hc

/-- What stands before a blank does not decide the lower case of what stands after it. -/
theorem lowerFrom_past_blank {b : Char} (hb : isBlank b = true) (near far s : List Char) :
    lowerFrom (near ++ b :: far) s = lowerFrom near s := by
  induction s generalizing near with
  | nil => rfl
  | cons c s ih =>
    have hnext := ih (c :: near)
    rw [List.cons_append] at hnext
    simp only [lowerFrom, lowerBetween, meetsCased_append_blank near far hb, hnext]

/-- A text is brought into lower case on the two sides of a blank. -/
theorem lowerFrom_append_blank {b : Char} (hb : isBlank b = true) (before s t : List Char) :
    lowerFrom before (s ++ b :: t) = lowerFrom before s ++ b :: lowerChars t := by
  induction s generalizing before with
  | nil =>
    have hpast := lowerFrom_past_blank hb [] before t
    simp only [List.nil_append] at hpast
    simp [lowerFrom, lowerBetween_blank hb, hpast, lowerChars]
  | cons c s ih =>
    simp only [List.cons_append, lowerFrom, lowerBetween, meetsCased_append_blank s t hb, ih,
      List.append_assoc]

theorem lowerFrom_no_blank {w : List Char} (hw : ∀ c ∈ w, isBlank c = false)
    (before : List Char) : ∀ x ∈ lowerFrom before w, isBlank x = false := by
  induction w generalizing before with
  | nil => simp [lowerFrom]
  | cons c w ih =>
    intro x hx
    rcases List.mem_append.mp hx with h | h
    · exact (lowerBetween_no_blank (hw c (.head _)) before w).2 x h
    · exact ih (fun y hy => hw y (.tail c hy)) _ x h

theorem lowerChars_ne_nil {w : List Char} (hw : ∀ c ∈ w, isBlank c = false) (hne : w ≠ []) :
    lowerChars w ≠ [] := by
  cases w with
  | nil => exact absurd rfl hne
  | cons c w =>
    have := (lowerBetween_no_blank (hw c (.head _)) [] w).1
    simp [lowerChars, lowerFrom, this]

/-! ## Words in lower case -/

/-- The words of a text in lower case are its words, each of them in lower case. -/
theorem words_lowerChars (s : List Char) : words (lowerChars s) = (words s).map lowerChars := by
  have hword : ∀ w, (∀ c ∈ w, isBlank c = false) →
      words (lowerChars w) = (words w).map lowerChars := by
    intro w hw
    by_cases hne : w = []
    · rw [hne]; rfl
    · have hlower : ∀ c ∈ lowerChars w, isBlank c = false := lowerFrom_no_blank hw []
      rw [words_of_no_blank hlower (lowerChars_ne_nil hw hne), words_of_no_blank hw hne,
        List.map_singleton]
  induction s using blank_induction with
  | word w hw => exact hword w hw
  | gap w b t hw hb ih =>
    have hsplit : lowerChars (w ++ b :: t) = lowerChars w ++ b :: lowerChars t :=
      lowerFrom_append_blank hb [] w t
    rw [hsplit, words_append_blank _ _ hb, hword w hw, ih, words_append_blank w t hb,
      List.map_append]

/-- Single spaces and lower case for the whole text give the words of the text in lower case. -/
theorem words_lowercase_spaced (s : String) :
    words (lowercase (spaced s)).toList = (words s.toList).map lowerChars := by
  rw [lowercase, String.toList_ofList, words_lowerChars, words_spaced]

end FeedSearch.Text
