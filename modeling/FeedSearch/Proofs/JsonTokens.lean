-- Tokens of what is written: every gap is passed over, and every word, string and
-- number is one whole token, wherever it stands. A number is read to its end as
-- long as nothing follows with which a number could go on.
import FeedSearch.Proofs.JsonGrammar
import FeedSearch.Proofs.Results

namespace FeedSearch.Json

theorem isGap_iff {c : Char} : isGap c = true ↔ c = ' ' ∨ c = '\t' ∨ c = '\n' ∨ c = '\r' := by
  simp only [isGap, Bool.or_eq_true, beq_iff_eq, or_assoc]

/-! ## Numbers -/

/-- A text that does not start with a digit. -/
def NoDigit (s : List Char) : Prop := ∀ c ∈ s.head?, c.isDigit = false

/-- A text with which no number goes on. -/
def Quiet (s : List Char) : Prop :=
  ∀ c ∈ s.head?, c.isDigit = false ∧ c ≠ '.' ∧ isExponentMark c = false

theorem Quiet.noDigit {s : List Char} (h : Quiet s) : NoDigit s := fun c hc => (h c hc).1

theorem takeWhile_digits {digits rest : List Char} (hdigits : digits.all Char.isDigit = true)
    (hrest : NoDigit rest) : (digits ++ rest).takeWhile Char.isDigit = digits := by
  rw [List.takeWhile_append_of_pos (List.all_eq_true.mp hdigits)]
  cases rest with
  | nil => simp
  | cons c rest =>
    have hc : c.isDigit = false := hrest c rfl
    rw [List.takeWhile_cons_of_neg (by simp [hc]), List.append_nil]

namespace Figure

variable (f : Figure) {rest : List Char}

/-- What is sound about the parts of a number. -/
theorem sound_parts :
    (f.numeral.whole ≠ [] ∧ f.numeral.whole.all Char.isDigit = true ∧
      ∀ more, f.numeral.whole = '0' :: more → more = []) ∧
    f.numeral.fraction.all Char.isDigit = true ∧
    ∀ negative digits, f.numeral.exponent = some (negative, digits) →
      digits ≠ [] ∧ digits.all Char.isDigit = true := by
  have h := f.sound
  simp only [Numeral.isSound, Bool.and_eq_true] at h
  obtain ⟨⟨⟨⟨hsome, hdigits⟩, hzero⟩, hfraction⟩, hexponent⟩ := h
  refine ⟨⟨by simpa using hsome, hdigits, fun more hmore => ?_⟩, hfraction, fun _ digits he => ?_⟩
  · simpa [hmore] using hzero
  · simpa [he] using hexponent

theorem scanPower_digits (n : Numeral) (negative : Bool) {digits : List Char} (hsome : digits ≠ [])
    (hdigits : digits.all Char.isDigit = true) (hrest : NoDigit rest) (offset : Nat) :
    scanPower n negative offset (digits ++ rest) =
      .ok ({ n with exponent := some (negative, digits) }, offset + digits.length, rest) := by
  unfold scanPower
  simp only [takeWhile_digits hdigits hrest, List.drop_left]
  rw [if_neg (by simpa using hsome)]

/-- A digit is no sign, so a number without one is not cut short. -/
theorem scanExponent_digits (n : Numeral) {digits : List Char} (hsome : digits ≠ [])
    (hdigits : digits.all Char.isDigit = true) (hrest : NoDigit rest) (offset : Nat) :
    scanExponent n offset (digits ++ rest) =
      .ok ({ n with exponent := some (false, digits) }, offset + digits.length, rest) := by
  rw [← scanPower_digits n false hsome hdigits hrest]
  obtain ⟨d, more, rfl⟩ := List.exists_cons_of_ne_nil hsome
  have hd : d.isDigit = true := List.all_eq_true.mp hdigits d List.mem_cons_self
  unfold scanExponent
  split
  · rename_i he
    obtain ⟨rfl, _⟩ := List.cons.inj he
    exact absurd hd (by decide)
  · rename_i he
    obtain ⟨rfl, _⟩ := List.cons.inj he
    exact absurd hd (by decide)
  · rfl

theorem scanAfterFraction_exponent (hrest : Quiet rest) (offset : Nat) :
    ∃ stop, scanAfterFraction { f.numeral with exponent := none } offset (f.exponent ++ rest) =
      .ok (f.numeral, stop, rest) := by
  unfold Figure.exponent
  cases he : f.numeral.exponent with
  | none =>
    have hsame : ({ f.numeral with exponent := none } : Numeral) = f.numeral := by rw [← he]
    rw [hsame, List.nil_append]
    cases rest with
    | nil => exact ⟨offset, rfl⟩
    | cons c rest =>
      have hc := (hrest c rfl).2.2
      exact ⟨offset, by simp only [scanAfterFraction, hc, Bool.false_eq_true, if_false]⟩
  | some e =>
    obtain ⟨negative, digits⟩ := e
    obtain ⟨hsome, hdigits⟩ := f.sound_parts.2.2 _ _ he
    have hall : ({ f.numeral with exponent := some (negative, digits) } : Numeral) = f.numeral := by
      rw [← he]
    have hmark : isExponentMark (if f.capital then 'E' else 'e') = true := by
      cases f.capital <;> rfl
    simp only [scanAfterFraction, List.cons_append, hmark, if_true]
    cases negative with
    | true =>
      have hpower := scanPower_digits { f.numeral with exponent := none } true hsome hdigits
        hrest.noDigit (offset + 1 + 1)
      exact ⟨_, hpower.trans (by rw [hall])⟩
    | false =>
      cases f.plus with
      | true =>
        have hpower := scanPower_digits { f.numeral with exponent := none } false hsome hdigits
          hrest.noDigit (offset + 1 + 1)
        exact ⟨_, hpower.trans (by rw [hall])⟩
      | false =>
        have hpower := scanExponent_digits { f.numeral with exponent := none } hsome hdigits
          hrest.noDigit (offset + 1)
        exact ⟨_, hpower.trans (by rw [hall])⟩

/-- Where the digits of a number end, there is no point before its exponent. -/
theorem head_exponent (hrest : Quiet rest) :
    ∀ c ∈ (f.exponent ++ rest).head?, c.isDigit = false ∧ c ≠ '.' := by
  unfold Figure.exponent
  intro c hc
  cases he : f.numeral.exponent with
  | none =>
    rw [he] at hc
    exact ⟨(hrest c hc).1, (hrest c hc).2.1⟩
  | some e =>
    rw [he] at hc
    obtain rfl := Option.some.inj hc
    cases f.capital <;> exact ⟨rfl, by decide⟩

theorem scanAfterWhole_fraction (hrest : Quiet rest) (offset : Nat) :
    ∃ stop, scanAfterWhole { f.numeral with fraction := [], exponent := none } offset
      (f.fraction ++ (f.exponent ++ rest)) = .ok (f.numeral, stop, rest) := by
  have hhead := f.head_exponent hrest
  unfold Figure.fraction
  cases hf : f.numeral.fraction with
  | nil =>
    have hsame : ({ f.numeral with fraction := [], exponent := none } : Numeral) =
        { f.numeral with exponent := none } := by rw [← hf]
    obtain ⟨stop, hstop⟩ := f.scanAfterFraction_exponent hrest offset
    refine ⟨stop, ?_⟩
    rw [hsame, ← hstop]
    unfold scanAfterWhole
    split
    · rename_i he
      rw [List.isEmpty_nil, if_pos rfl, List.nil_append] at he
      exact absurd rfl (hhead '.' (by rw [he]; rfl)).2
    · rfl
  | cons d more =>
    have hdigits : (d :: more).all Char.isDigit = true := hf ▸ f.sound_parts.2.1
    have hread := takeWhile_digits hdigits fun c hc => (hhead c hc).1
    have hsame : ({ f.numeral with fraction := d :: more, exponent := none } : Numeral) =
        { f.numeral with exponent := none } := by rw [← hf]
    obtain ⟨stop, hstop⟩ := f.scanAfterFraction_exponent hrest (offset + 1 + (d :: more).length)
    refine ⟨stop, ?_⟩
    rw [← hstop, ← hsame]
    simp only [List.isEmpty_cons, Bool.false_eq_true, if_false, List.cons_append, scanAfterWhole]
    rw [← List.cons_append, hread, List.drop_left]
    rfl

/-- Neither a point nor an exponent starts with a digit. -/
theorem fraction_noDigit (hrest : Quiet rest) : NoDigit (f.fraction ++ (f.exponent ++ rest)) := by
  have hhead := f.head_exponent hrest
  unfold Figure.fraction
  split
  · exact fun c hc => (hhead c hc).1
  · intro c hc
    obtain rfl := Option.some.inj hc
    rfl

theorem scanUnsigned_digits (hrest : Quiet rest) (offset : Nat) :
    ∃ stop, scanUnsigned f.numeral.isNegative offset
      (f.numeral.whole ++ (f.fraction ++ (f.exponent ++ rest))) = .ok (f.numeral, stop, rest) := by
  obtain ⟨⟨hsome, hdigits, hzero⟩, _⟩ := f.sound_parts
  have hread := takeWhile_digits hdigits (f.fraction_noDigit hrest)
  obtain ⟨stop, hstop⟩ := f.scanAfterWhole_fraction hrest (offset + f.numeral.whole.length)
  refine ⟨stop, ?_⟩
  rw [← hstop]
  unfold scanUnsigned
  simp only [hread, List.drop_left]
  split
  · rename_i he
    exact absurd he hsome
  · rename_i he
    cases hzero _ he
  · rfl

theorem exists_whole : ∃ d more, f.numeral.whole = d :: more ∧ d.isDigit = true := by
  obtain ⟨⟨hsome, hdigits, _⟩, _⟩ := f.sound_parts
  obtain ⟨d, more, hwhole⟩ := List.exists_cons_of_ne_nil hsome
  exact ⟨d, more, hwhole, List.all_eq_true.mp hdigits d (hwhole ▸ List.mem_cons_self)⟩

/-- A figure is read to its end. -/
theorem scanNumeral_chars (hrest : Quiet rest) (offset : Nat) :
    ∃ stop, scanNumeral offset (f.chars ++ rest) = .ok (f.numeral, stop, rest) := by
  have hunsigned := f.scanUnsigned_digits hrest
  unfold Figure.chars Figure.sign
  simp only [List.append_assoc]
  cases hsign : f.numeral.isNegative with
  | true =>
    obtain ⟨stop, hstop⟩ := hunsigned (offset + 1)
    rw [hsign] at hstop
    exact ⟨stop, hstop⟩
  | false =>
    obtain ⟨d, more, hwhole, hd⟩ := f.exists_whole
    obtain ⟨stop, hstop⟩ := hunsigned offset
    rw [hsign, hwhole] at hstop
    refine ⟨stop, ?_⟩
    rw [← hstop, hwhole]
    unfold scanNumeral
    split
    · rename_i he
      obtain ⟨rfl, _⟩ := List.cons.inj he
      exact absurd hd (by decide)
    · rfl

/-- What a number starts with. -/
theorem exists_chars : ∃ c more, f.chars = c :: more ∧ (c == '-' || c.isDigit) = true := by
  obtain ⟨d, more, hwhole, hd⟩ := f.exists_whole
  unfold Figure.chars Figure.sign
  cases f.numeral.isNegative with
  | true => exact ⟨'-', _, rfl, rfl⟩
  | false => exact ⟨d, _, by rw [hwhole]; rfl, by simp [hd]⟩

theorem scanToken_chars (hrest : Quiet rest) (offset : Nat) :
    ∃ c more stop, f.chars ++ rest = c :: more ∧ isGap c = false ∧
      scanToken offset c more =
        (.plain ⟨(f.numeral.strict stop).map Scalar.number, none⟩, stop, rest) := by
  obtain ⟨c, more, hchars, hc⟩ := f.exists_chars
  obtain ⟨stop, hstop⟩ := f.scanNumeral_chars hrest offset
  refine ⟨c, more ++ rest, stop, by rw [hchars]; rfl, ?_, ?_⟩
  · rw [Bool.eq_false_iff]
    intro hgap
    rcases isGap_iff.mp hgap with rfl | rfl | rfl | rfl
    all_goals exact absurd hc (by decide)
  have hnumber : scanToken offset c (more ++ rest) = scanNumber offset (c :: (more ++ rest)) := by
    unfold scanToken
    split
    all_goals first
      | exact absurd hc (by decide)
      | rw [if_pos hc]
  rw [hnumber, ← List.cons_append, ← hchars]
  unfold scanNumber
  rw [hstop]

end Figure

/-! ## Strings -/

section Marks

variable {c : Char} {marks : List Mark} {rest : List Char}

theorem fourDigits_unit {a b c d : Char} (h : (Mark.unit a b c d).isSound = true) (offset : Nat)
    (rest : List Char) :
    fourDigits offset (a :: b :: c :: d :: rest) = .ok (Mark.unitOf a b c d, offset + 4, rest) := by
  simp only [Mark.isSound, List.all_cons, List.all_nil, Bool.and_true, Bool.and_eq_true,
    Option.isSome_iff_exists] at h
  obtain ⟨⟨va, ha⟩, ⟨vb, hb⟩, ⟨vc, hc⟩, ⟨vd, hd⟩⟩ := h
  simp only [fourDigits, Mark.unitOf, ha, hb, hc, hd, Option.getD_some]

theorem ne_unit_of_letter (h : (Mark.letter c).isSound = true) : c ≠ 'u' := by
  rintro rfl
  exact absurd h (by decide)

theorem skipEscape_letter (h : (Mark.letter c).isSound = true) (offset : Nat) (rest : List Char) :
    skipEscape offset (c :: rest) = .ok (offset + 1, rest) := by
  unfold skipEscape
  split
  · rename_i he
    cases he
  · rename_i he
    exact absurd (List.cons.inj he).1 (ne_unit_of_letter h)
  · rename_i he
    obtain ⟨rfl, rfl⟩ := List.cons.inj he
    exact if_pos h

theorem skipText_escape {offset next : Nat} {s rest : List Char}
    (h : skipEscape (offset + 1) s = .ok (next, rest)) :
    skipText offset ('\\' :: s) = skipText next rest := by
  rw [skipText.eq_def]
  simp only [beq_iff_eq, Char.reduceEq, if_false, if_true]
  split
  · rename_i hf
    rw [h] at hf
    cases hf
  · rename_i hr
    rw [h] at hr
    cases hr
    rfl

/-- A lenient reader gets past every sound mark. -/
theorem skipText_mark {m : Mark} (h : m.isSound = true) (offset : Nat) (rest : List Char) :
    ∃ next, skipText offset (m.chars ++ rest) = skipText next rest := by
  cases m with
  | plain c =>
    simp only [Mark.isSound, Bool.and_eq_true, bne_iff_ne, ne_eq, Bool.not_eq_true'] at h
    obtain ⟨⟨hquote, hslash⟩, hcontrol⟩ := h
    refine ⟨offset + c.utf8Size, ?_⟩
    rw [skipText.eq_def]
    simp [Mark.chars, hquote, hslash, hcontrol]
  | letter c => exact ⟨_, skipText_escape (skipEscape_letter h (offset + 1) rest)⟩
  | unit a b c d =>
    have hdigits := fourDigits_unit h (offset + 1 + 1) rest
    have hskip : skipEscape (offset + 1) ('u' :: a :: b :: c :: d :: rest) =
        .ok (offset + 1 + 1 + 4, rest) := by
      simp only [skipEscape, hdigits]
      rfl
    exact ⟨_, skipText_escape hskip⟩

theorem skipText_marks (h : marks.all Mark.isSound = true) (offset : Nat) (rest : List Char) :
    ∃ stop, skipText offset (marks.flatMap Mark.chars ++ '"' :: rest) = .ok (stop, rest) := by
  induction marks generalizing offset with
  | nil =>
    refine ⟨offset + 1, ?_⟩
    rw [List.flatMap_nil, List.nil_append, skipText.eq_def]
    rfl
  | cons m marks ih =>
    obtain ⟨hm, hmarks⟩ := Bool.and_eq_true_iff.mp h
    rw [List.flatMap_cons, List.append_assoc]
    obtain ⟨next, hnext⟩ := skipText_mark hm offset (marks.flatMap Mark.chars ++ '"' :: rest)
    rw [hnext]
    exact ih hmarks next

theorem strictText_piece {offset next : Nat} {d : Char} {s rest : List Char} (hc : c ≠ '"')
    (hp : piece offset c s = .ok (d, next, rest)) :
    (strictText offset (c :: s)).toOption = (strictText next rest).toOption.map (d :: ·) := by
  rw [← toOption_map, strictText.eq_def]
  simp only [beq_iff_eq, hc, if_false]
  split
  · rename_i hf
    rw [hp] at hf
    cases hf
  · rename_i hr
    rw [hp] at hr
    cases hr
    rfl

theorem strictText_error {offset : Nat} {f : Fault} {s : List Char} (hc : c ≠ '"')
    (hp : piece offset c s = .error f) : (strictText offset (c :: s)).toOption = none := by
  rw [strictText.eq_def]
  simp only [beq_iff_eq, hc, if_false]
  split
  · rfl
  · rename_i hr
    rw [hp] at hr
    cases hr

theorem piece_plain (h : (Mark.plain c).isSound = true) (offset : Nat) (rest : List Char) :
    c ≠ '"' ∧ piece offset c rest = .ok (c, offset + c.utf8Size, rest) := by
  simp only [Mark.isSound, Bool.and_eq_true, bne_iff_ne, ne_eq, Bool.not_eq_true'] at h
  obtain ⟨⟨hquote, hslash⟩, hcontrol⟩ := h
  exact ⟨hquote, by simp [piece, hslash, hcontrol]⟩

theorem piece_letter {char : Char} (h : shortEscape? c = some char) (offset : Nat)
    (rest : List Char) : piece offset '\\' (c :: rest) = .ok (char, offset + 2, rest) := by
  have hc : c ≠ 'u' := ne_unit_of_letter (by simp [Mark.isSound, h])
  simp only [piece, beq_self_eq_true, if_true]
  unfold escape
  split
  · rename_i he
    cases he
  · rename_i he
    exact absurd (List.cons.inj he).1 hc
  · rename_i he
    obtain ⟨rfl, rfl⟩ := List.cons.inj he
    simp only [h]

theorem piece_unit {a b c d : Char} (h : (Mark.unit a b c d).isSound = true) (offset : Nat)
    (rest : List Char) : piece offset '\\' ('u' :: a :: b :: c :: d :: rest) =
      if 0xDC00 ≤ Mark.unitOf a b c d ∧ Mark.unitOf a b c d ≤ 0xDFFF then
        .error ⟨.loneSurrogate, offset + 6⟩
      else if 0xD800 ≤ Mark.unitOf a b c d ∧ Mark.unitOf a b c d ≤ 0xDBFF then
        lowSurrogate (Mark.unitOf a b c d) (offset + 6) rest
      else .ok (Char.ofNat (Mark.unitOf a b c d), offset + 6, rest) := by
  simp only [piece, beq_self_eq_true, if_true, escape, unitEscape, fourDigits_unit h]

theorem lowSurrogate_unit {a b c d : Char} (h : (Mark.unit a b c d).isSound = true)
    (first offset : Nat) (rest : List Char) :
    lowSurrogate first offset ('\\' :: 'u' :: a :: b :: c :: d :: rest) =
      if 0xDC00 ≤ Mark.unitOf a b c d ∧ Mark.unitOf a b c d ≤ 0xDFFF then
        .ok (Char.ofNat (0x10000 + (first - 0xD800) * 0x400 + (Mark.unitOf a b c d - 0xDC00)),
          offset + 6, rest)
      else .error ⟨.loneSurrogate, offset + 6⟩ := by
  simp only [lowSurrogate, fourDigits_unit h]

/-- Where no second unit follows, there is no second half. -/
theorem lowSurrogate_other {marks : List Mark} (h : marks.all Mark.isSound = true)
    (hother : ∀ a b c d rest, marks ≠ .unit a b c d :: rest) (first offset : Nat)
    (rest : List Char) :
    ∃ f, lowSurrogate first offset (marks.flatMap Mark.chars ++ '"' :: rest) = .error f := by
  cases marks with
  | nil => exact ⟨_, rfl⟩
  | cons m marks =>
    obtain ⟨hm, _⟩ := Bool.and_eq_true_iff.mp h
    cases m with
    | plain c =>
      simp only [Mark.isSound, Bool.and_eq_true, bne_iff_ne, ne_eq] at hm
      simp only [List.flatMap_cons, Mark.chars, List.cons_append, List.nil_append]
      unfold lowSurrogate
      split
      · exact ⟨_, rfl⟩
      · rename_i he
        exact absurd (List.cons.inj he).1 hm.1.2
      · rename_i he
        exact absurd (List.cons.inj he).1 hm.1.2
      · exact ⟨_, rfl⟩
      · exact ⟨_, rfl⟩
    | letter c =>
      simp only [List.flatMap_cons, Mark.chars, List.cons_append, List.nil_append]
      unfold lowSurrogate
      split
      · exact ⟨_, rfl⟩
      · exact ⟨_, rfl⟩
      · rename_i he
        exact absurd (List.cons.inj (List.cons.inj he).2).1 (ne_unit_of_letter hm)
      · exact ⟨_, rfl⟩
      · exact ⟨_, rfl⟩
    | unit a b c d => exact absurd rfl (hother a b c d marks)

/-- A strict reader gets the characters that marks stand for. -/
theorem strictText_marks (h : marks.all Mark.isSound = true) (offset : Nat) (rest : List Char) :
    (strictText offset (marks.flatMap Mark.chars ++ '"' :: rest)).toOption =
      Mark.characters? marks := by
  have hslash : '\\' ≠ '"' := by decide
  fun_induction Mark.characters? marks generalizing offset with
  | case1 =>
    rw [List.flatMap_nil, List.nil_append, strictText.eq_def]
    rfl
  | case2 c marks ih =>
    obtain ⟨hm, hmarks⟩ := Bool.and_eq_true_iff.mp h
    obtain ⟨hc, hpiece⟩ := piece_plain hm offset (marks.flatMap Mark.chars ++ '"' :: rest)
    rw [List.flatMap_cons, List.append_assoc]
    exact (strictText_piece hc hpiece).trans (by rw [ih hmarks])
  | case3 c marks ih =>
    obtain ⟨hm, hmarks⟩ := Bool.and_eq_true_iff.mp h
    obtain ⟨char, hchar⟩ := Option.isSome_iff_exists.mp hm
    have hpiece := piece_letter hchar offset (marks.flatMap Mark.chars ++ '"' :: rest)
    rw [hchar]
    exact (strictText_piece hslash hpiece).trans (by rw [ih hmarks]; rfl)
  | case4 a b c d marks n hlow =>
    obtain ⟨hm, _⟩ := Bool.and_eq_true_iff.mp h
    have hpiece := piece_unit hm offset (marks.flatMap Mark.chars ++ '"' :: rest)
    rw [if_pos hlow] at hpiece
    exact strictText_error hslash hpiece
  | case5 a b c d n hlow hhigh a' b' c' d' marks n' hlow' ih =>
    obtain ⟨hm, hmore⟩ := Bool.and_eq_true_iff.mp h
    obtain ⟨hm', hmarks⟩ := Bool.and_eq_true_iff.mp hmore
    have hpiece := piece_unit hm offset
      ((Mark.unit a' b' c' d' :: marks).flatMap Mark.chars ++ '"' :: rest)
    have hsecond := lowSurrogate_unit hm' n (offset + 6) (marks.flatMap Mark.chars ++ '"' :: rest)
    rw [if_neg hlow, if_pos hhigh] at hpiece
    rw [if_pos hlow'] at hsecond
    exact (strictText_piece hslash (hpiece.trans hsecond)).trans (by rw [ih hmarks])
  | case6 a b c d n hlow hhigh a' b' c' d' marks n' hlow' =>
    obtain ⟨hm, hmore⟩ := Bool.and_eq_true_iff.mp h
    obtain ⟨hm', _⟩ := Bool.and_eq_true_iff.mp hmore
    have hpiece := piece_unit hm offset
      ((Mark.unit a' b' c' d' :: marks).flatMap Mark.chars ++ '"' :: rest)
    have hsecond := lowSurrogate_unit hm' n (offset + 6) (marks.flatMap Mark.chars ++ '"' :: rest)
    rw [if_neg hlow, if_pos hhigh] at hpiece
    rw [if_neg hlow'] at hsecond
    exact strictText_error hslash (hpiece.trans hsecond)
  | case7 a b c d marks n hlow hhigh hother =>
    obtain ⟨hm, hmarks⟩ := Bool.and_eq_true_iff.mp h
    have hpiece := piece_unit hm offset (marks.flatMap Mark.chars ++ '"' :: rest)
    obtain ⟨f, hsecond⟩ := lowSurrogate_other hmarks hother n (offset + 6) rest
    rw [if_neg hlow, if_pos hhigh] at hpiece
    exact strictText_error hslash (hpiece.trans hsecond)
  | case8 a b c d marks n hlow hhigh ih =>
    obtain ⟨hm, hmarks⟩ := Bool.and_eq_true_iff.mp h
    have hpiece := piece_unit hm offset (marks.flatMap Mark.chars ++ '"' :: rest)
    rw [if_neg hlow, if_neg hhigh] at hpiece
    exact (strictText_piece hslash hpiece).trans (by rw [ih hmarks])

end Marks

namespace Quote

/-- A string is read to its closing quote, whether or not it means something. -/
theorem scanText_tail (q : Quote) (offset : Nat) (rest : List Char) :
    ∃ strict stop, scanText offset (q.tail ++ rest) = (.text ⟨strict, none⟩, stop, rest) ∧
      strict.toOption = q.content? := by
  have htail : q.tail ++ rest = q.marks.flatMap Mark.chars ++ '"' :: rest :=
    List.append_cons .. |>.symm
  obtain ⟨stop, hskip⟩ := skipText_marks q.sound offset rest
  refine ⟨(strictText offset (q.tail ++ rest)).map String.ofList, stop, ?_, ?_⟩
  · unfold scanText
    rw [htail, hskip]
  · rw [toOption_map, htail, strictText_marks q.sound]
    rfl

end Quote

/-! ## Runs of tokens -/

theorem tokensFrom_gap (g : Gap) (offset : Nat) (rest : List Char) :
    ∃ next, tokensFrom offset (g.chars ++ rest) = tokensFrom next rest := by
  obtain ⟨chars, blank⟩ := g
  show ∃ next, tokensFrom offset (chars ++ rest) = tokensFrom next rest
  induction chars generalizing offset with
  | nil => exact ⟨offset, rfl⟩
  | cons c chars ih =>
    obtain ⟨hc, hchars⟩ := Bool.and_eq_true_iff.mp blank
    obtain ⟨next, hnext⟩ := ih (offset + 1) hchars
    refine ⟨next, ?_⟩
    rw [List.cons_append, tokensFrom, if_pos hc, hnext]

/-- A whole token, and the tokens of what follows it. -/
theorem tokensFrom_token {offset stop : Nat} {c : Char} {s rest : List Char} {t : Token}
    (hc : isGap c = false) (hscan : scanToken offset c s = (t, stop, rest))
    (ht : t.isBroken = false) :
    tokensFrom offset (c :: s) = { start := offset, stop, token := t } :: tokensFrom stop rest := by
  rw [tokensFrom, if_neg (by simp [hc])]
  simp only [hscan, ht, Bool.false_eq_true, if_false]

end FeedSearch.Json
