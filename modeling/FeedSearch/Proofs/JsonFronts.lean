-- Fronts of JSON texts. The tokens of a front are the same whatever follows it and
-- wherever it stands, but for a number at its end, which what follows could carry
-- on. So the tokens of a text are those of its front and those of its rest.
import FeedSearch.Proofs.JsonTrees

namespace FeedSearch.Json

/-! ## Numbers -/

/-- A front ends before its own end, or nothing behind it carries it on. -/
def Ends (left rest : List Char) : Prop := left ≠ [] ∨ Quiet rest

theorem Ends.cons (c : Char) (left rest : List Char) : Ends (c :: left) rest :=
  Or.inl (List.cons_ne_nil _ _)

section Numbers

variable {n m : Numeral} {negative : Bool} {offset stop : Nat} {s left rest : List Char}

/-- Digits end where they end in the front. -/
theorem takeWhile_digits_append (h : s.drop (s.takeWhile Char.isDigit).length ≠ [] ∨ NoDigit rest) :
    (s ++ rest).takeWhile Char.isDigit = s.takeWhile Char.isDigit := by
  induction s with
  | nil =>
    have hrest : NoDigit rest := h.resolve_left (by simp)
    have hnone : ([] : List Char).all Char.isDigit = true := rfl
    simpa using takeWhile_digits hnone hrest
  | cons c s ih =>
    rw [List.cons_append, List.takeWhile_cons, List.takeWhile_cons]
    split
    · rename_i hc
      rw [ih (by simpa [List.takeWhile_cons, hc] using h)]
    · rfl

theorem drop_digits_append (s rest : List Char) :
    (s ++ rest).drop (s.takeWhile Char.isDigit).length =
      s.drop (s.takeWhile Char.isDigit).length ++ rest :=
  List.drop_append_of_le_length (List.takeWhile_sublist _).length_le

/-- What is left of a longer front is left of a shorter one. -/
theorem Ends.of_length {left' : List Char} (h : Ends left rest) (hle : left.length ≤ left'.length) :
    left' ≠ [] ∨ NoDigit rest := by
  refine h.imp (fun hleft hleft' => hleft ?_) Quiet.noDigit
  rw [hleft', List.length_nil, Nat.le_zero] at hle
  exact List.length_eq_zero_iff.mp hle

theorem scanPower_append (h : scanPower n negative offset s = .ok (m, stop, left))
    (hend : Ends left rest) (offset' : Nat) :
    ∃ stop', scanPower n negative offset' (s ++ rest) = .ok (m, stop', left ++ rest) := by
  unfold scanPower at h ⊢
  simp only at h ⊢
  split at h
  · cases h
  · rename_i hsome
    cases h
    rw [takeWhile_digits_append (hend.imp_right Quiet.noDigit), if_neg hsome, drop_digits_append]
    exact ⟨_, rfl⟩

theorem scanExponent_append (h : scanExponent n offset s = .ok (m, stop, left))
    (hend : Ends left rest) (offset' : Nat) :
    ∃ stop', scanExponent n offset' (s ++ rest) = .ok (m, stop', left ++ rest) := by
  cases s with
  | nil => cases h
  | cons c s =>
    unfold scanExponent at h ⊢
    rw [List.cons_append]
    split at h
    · rename_i he
      obtain ⟨rfl, rfl⟩ := List.cons.inj he
      exact scanPower_append h hend _
    · rename_i he
      obtain ⟨rfl, rfl⟩ := List.cons.inj he
      exact scanPower_append h hend _
    · rename_i hplus hminus
      split
      · rename_i he
        exact absurd (by rw [(List.cons.inj he).1]) (hplus s)
      · rename_i he
        exact absurd (by rw [(List.cons.inj he).1]) (hminus s)
      · exact scanPower_append h hend _

theorem scanAfterFraction_append (h : scanAfterFraction n offset s = .ok (m, stop, left))
    (hend : Ends left rest) (offset' : Nat) :
    ∃ stop', scanAfterFraction n offset' (s ++ rest) = .ok (m, stop', left ++ rest) := by
  cases s with
  | nil =>
    cases h
    have hrest : Quiet rest := hend.resolve_left (by simp)
    cases rest with
    | nil => exact ⟨offset', rfl⟩
    | cons d rest =>
      have hd := (hrest d rfl).2.2
      exact ⟨offset', by simp [scanAfterFraction, hd]⟩
  | cons c s =>
    simp only [scanAfterFraction, List.cons_append] at h ⊢
    split at h
    · rename_i hc
      rw [if_pos hc]
      exact scanExponent_append h hend _
    · rename_i hc
      cases h
      rw [if_neg hc]
      exact ⟨offset', rfl⟩

theorem scanAfterWhole_append (h : scanAfterWhole n offset s = .ok (m, stop, left))
    (hend : Ends left rest) (offset' : Nat) :
    ∃ stop', scanAfterWhole n offset' (s ++ rest) = .ok (m, stop', left ++ rest) := by
  unfold scanAfterWhole at h ⊢
  split at h
  · rename_i r
    simp only [List.cons_append] at h ⊢
    split at h
    · cases h
    · rename_i hsome
      have hread := takeWhile_digits_append (hend.of_length (length_scanAfterFraction h))
      rw [hread, if_neg hsome, drop_digits_append]
      exact scanAfterFraction_append h hend _
  · rename_i hpoint
    split
    · rename_i r he
      cases s with
      | nil =>
        -- a point behind the front would carry the number on
        cases h
        have hrest : Quiet rest := hend.resolve_left (by simp)
        rw [List.nil_append] at he
        exact absurd rfl (hrest '.' (by rw [he]; rfl)).2.1
      | cons c s => exact absurd (by rw [(List.cons.inj he).1]) (hpoint s)
    · exact scanAfterFraction_append h hend _

theorem scanUnsigned_append (h : scanUnsigned negative offset s = .ok (m, stop, left))
    (hend : Ends left rest) (offset' : Nat) :
    ∃ stop', scanUnsigned negative offset' (s ++ rest) = .ok (m, stop', left ++ rest) := by
  unfold scanUnsigned at h ⊢
  simp only at h ⊢
  split at h
  · cases h
  · cases h
  · rename_i hsome hzero
    have hread := takeWhile_digits_append (hend.of_length (length_scanAfterWhole h))
    rw [hread, drop_digits_append]
    split
    · exact absurd ‹_› hsome
    · exact absurd ‹_› (hzero _ _)
    · exact scanAfterWhole_append h hend _

theorem scanNumeral_append (h : scanNumeral offset s = .ok (m, stop, left)) (hend : Ends left rest)
    (offset' : Nat) :
    ∃ stop', scanNumeral offset' (s ++ rest) = .ok (m, stop', left ++ rest) := by
  cases s with
  | nil => cases h
  | cons c s =>
    unfold scanNumeral at h ⊢
    rw [List.cons_append]
    split at h
    · rename_i he
      obtain ⟨rfl, rfl⟩ := List.cons.inj he
      exact scanUnsigned_append h hend _
    · rename_i hminus
      split
      · rename_i he
        exact absurd (by rw [(List.cons.inj he).1]) (hminus s)
      · exact scanUnsigned_append h hend _

end Numbers

/-! ## Words -/

theorem scanWord_append {v : Scalar} {offset stop : Nat} {word s left : List Char} {t : Token}
    (h : scanWord v offset word s = (t, stop, left)) (ht : t.isBroken = false) (rest : List Char)
    (offset' : Nat) :
    t = .plain ⟨.ok v, none⟩ ∧
      ∃ stop', scanWord v offset' word (s ++ rest) = (t, stop', left ++ rest) := by
  induction word generalizing offset offset' s with
  | nil =>
    obtain ⟨rfl, _, rfl⟩ := by simpa [scanWord] using h
    exact ⟨rfl, offset', rfl⟩
  | cons a word ih =>
    cases s with
    | nil =>
      obtain ⟨rfl, _⟩ := by simpa [scanWord] using h
      cases ht
    | cons b s =>
      simp only [scanWord, List.cons_append] at h ⊢
      split at h
      · rename_i hab
        rw [if_pos hab]
        exact ih h _
      · obtain ⟨rfl, _⟩ := Prod.mk.inj h
        cases ht

/-! ## Strings -/

section Strings

variable {offset next : Nat} {s left : List Char}

theorem fourDigits_eq_ok {n : Nat} (h : fourDigits offset s = .ok (n, next, left)) :
    ∃ a b c d, s = a :: b :: c :: d :: left ∧ (Mark.unit a b c d).isSound = true := by
  unfold fourDigits at h
  split at h
  · rename_i a b c d rest
    split at h
    · rename_i ha hb hc hd
      cases h
      exact ⟨a, b, c, d, rfl, by simp [Mark.isSound, ha, hb, hc, hd]⟩
    · cases h
  · split at h <;> cases h

/-- What a lenient reader gets past behind a backslash is a mark. -/
theorem skipEscape_eq_ok (h : skipEscape offset s = .ok (next, left)) :
    ∃ m : Mark, m.isSound = true ∧ '\\' :: s = m.chars ++ left := by
  unfold skipEscape at h
  split at h
  · cases h
  · obtain ⟨⟨n, stop, rest⟩, hdigits, he⟩ := map_eq_ok h
    obtain ⟨rfl, rfl⟩ := Prod.mk.inj he
    obtain ⟨a, b, c, d, rfl, hsound⟩ := fourDigits_eq_ok hdigits
    exact ⟨.unit a b c d, hsound, rfl⟩
  · rename_i c rest _
    split at h
    · rename_i hc
      cases h
      exact ⟨.letter c, hc, rfl⟩
    · cases h

/-- What a lenient reader gets past is a string. -/
theorem skipText_eq_ok (h : skipText offset s = .ok (next, left)) :
    ∃ q : Quote, s = q.tail ++ left := by
  suffices hmarks : ∃ marks : List Mark, marks.all Mark.isSound = true ∧
      s = marks.flatMap Mark.chars ++ '"' :: left by
    obtain ⟨marks, hsound, hs⟩ := hmarks
    exact ⟨⟨marks, hsound⟩, by rw [hs, Quote.tail, List.append_assoc]; rfl⟩
  fun_induction skipText offset s with
  | case1 => cases h
  | case2 offset c rest hc =>
    cases h
    exact ⟨[], rfl, by rw [beq_iff_eq.mp hc]; rfl⟩
  | case3 => cases h
  | case4 offset c rest _ hc next' rest' hskip ih =>
    obtain ⟨m, hm, hchars⟩ := skipEscape_eq_ok hskip
    obtain ⟨marks, hsound, hrest⟩ := ih h
    refine ⟨m :: marks, Bool.and_eq_true_iff.mpr ⟨hm, hsound⟩, ?_⟩
    rw [beq_iff_eq.mp hc, hchars, hrest, List.flatMap_cons, List.append_assoc]
  | case5 => cases h
  | case6 offset c rest hquote hslash hcontrol ih =>
    obtain ⟨marks, hsound, hrest⟩ := ih h
    have hplain : (Mark.plain c).isSound = true := by
      simp [Mark.isSound] at hquote hslash ⊢
      exact ⟨⟨hquote, hslash⟩, by simpa using hcontrol⟩
    refine ⟨.plain c :: marks, Bool.and_eq_true_iff.mpr ⟨hplain, hsound⟩, ?_⟩
    rw [hrest]
    rfl

end Strings

/-! ## Tokens -/

/-- Two tokens that say the same, wherever they stand. -/
inductive Token.Alike : Token → Token → Prop where
  | openList : Alike .openList .openList
  | closeList : Alike .closeList .closeList
  | openObject : Alike .openObject .openObject
  | closeObject : Alike .closeObject .closeObject
  | comma : Alike .comma .comma
  | colon : Alike .colon .colon
  | text {s s' : Except Fault String} (h : s.toOption = s'.toOption) :
      Alike (.text ⟨s, none⟩) (.text ⟨s', none⟩)
  | plain {v v' : Except Fault Scalar} (h : v.toOption = v'.toOption) :
      Alike (.plain ⟨v, none⟩) (.plain ⟨v', none⟩)

namespace Token.Alike

variable {t t' u : Token}

theorem isBroken (h : t.Alike t') : t'.isBroken = false := by
  cases h <;> rfl

theorem eq_closeList_iff (h : t.Alike t') : t = .closeList ↔ t' = .closeList := by
  cases h <;> simp

theorem eq_closeObject_iff (h : t.Alike t') : t = .closeObject ↔ t' = .closeObject := by
  cases h <;> simp

/-- Tokens that say the same as one token say the same. -/
theorem join (h : t.Alike t') (h' : t.Alike u) : t'.Alike u := by
  cases h with
  | text h =>
    cases h' with
    | text h' => exact .text (h.symm.trans h')
  | plain h =>
    cases h' with
    | plain h' => exact .plain (h.symm.trans h')
  | _ => exact h'

end Token.Alike

section Tokens

variable {offset stop : Nat} {c : Char} {s left : List Char} {t : Token}

theorem scanText_append (h : scanText offset s = (t, stop, left)) (ht : t.isBroken = false)
    (rest : List Char) (offset' : Nat) :
    ∃ t' stop', scanText offset' (s ++ rest) = (t', stop', left ++ rest) ∧ t.Alike t' := by
  have hskip : ∃ next, skipText offset s = .ok (next, left) := by
    unfold scanText at h
    simp only at h
    split at h
    · obtain ⟨rfl, _⟩ := Prod.mk.inj h
      cases ht
    · rename_i hskip
      obtain ⟨_, h⟩ := Prod.mk.inj h
      obtain ⟨rfl, rfl⟩ := Prod.mk.inj h
      exact ⟨_, hskip⟩
  obtain ⟨next, hskip⟩ := hskip
  obtain ⟨q, rfl⟩ := skipText_eq_ok hskip
  obtain ⟨strict, stop₁, hscan, hcontent⟩ := q.scanText_tail offset left
  obtain ⟨strict', stop', hscan', hcontent'⟩ := q.scanText_tail offset' (left ++ rest)
  rw [hscan] at h
  obtain ⟨rfl, _⟩ := Prod.mk.inj h
  refine ⟨_, stop', by rw [List.append_assoc, hscan'], .text (hcontent.trans hcontent'.symm)⟩

theorem scanNumber_append (h : scanNumber offset s = (t, stop, left)) (ht : t.isBroken = false)
    {rest : List Char} (hend : (∃ v, t = .plain v) → Ends left rest) (offset' : Nat) :
    ∃ t' stop', scanNumber offset' (s ++ rest) = (t', stop', left ++ rest) ∧ t.Alike t' := by
  unfold scanNumber at h ⊢
  split at h
  · cases h
    cases ht
  · rename_i n next rest' hscan
    cases h
    obtain ⟨stop', hscan'⟩ := scanNumeral_append hscan (hend ⟨_, rfl⟩) offset'
    rw [hscan']
    refine ⟨_, stop', rfl, .plain ?_⟩
    rw [toOption_map, toOption_map, strict_toOption, strict_toOption]

theorem scanToken_number (hc : (c == '-' || c.isDigit) = true) (offset : Nat) (s : List Char) :
    scanToken offset c s = scanNumber offset (c :: s) := by
  unfold scanToken
  split
  all_goals first
    | exact absurd hc (by decide)
    | rw [if_pos hc]

/-- A whole token is the same whatever follows it, if it is no number that goes on. -/
theorem scanToken_append (h : scanToken offset c s = (t, stop, left)) (ht : t.isBroken = false)
    {rest : List Char} (hend : (∃ v, t = .plain v) → Ends left rest) (offset' : Nat) :
    ∃ t' stop', scanToken offset' c (s ++ rest) = (t', stop', left ++ rest) ∧ t.Alike t' := by
  unfold scanToken at h
  split at h
  · cases h; exact ⟨_, _, rfl, .openList⟩
  · cases h; exact ⟨_, _, rfl, .closeList⟩
  · cases h; exact ⟨_, _, rfl, .openObject⟩
  · cases h; exact ⟨_, _, rfl, .closeObject⟩
  · cases h; exact ⟨_, _, rfl, .comma⟩
  · cases h; exact ⟨_, _, rfl, .colon⟩
  · exact scanText_append h ht rest _
  · obtain ⟨rfl, stop', hword⟩ := scanWord_append h ht rest (offset' + 1)
    exact ⟨_, stop', hword, .plain rfl⟩
  · obtain ⟨rfl, stop', hword⟩ := scanWord_append h ht rest (offset' + 1)
    exact ⟨_, stop', hword, .plain rfl⟩
  · obtain ⟨rfl, stop', hword⟩ := scanWord_append h ht rest (offset' + 1)
    exact ⟨_, stop', hword, .plain rfl⟩
  · split at h
    · rename_i hc
      rw [scanToken_number hc]
      exact scanNumber_append h ht hend offset'
    · cases h
      cases ht

/-! ## Runs of tokens -/

/-- The tokens of a text are all whole. -/
def Whole (tokens : List Lexeme) : Prop := ∀ l ∈ tokens, l.token.isBroken = false

def Lexeme.Alike (l l' : Lexeme) : Prop := l.token.Alike l'.token

/-- What follows a front does not carry on a number at its end. -/
def Closes (tokens : List Lexeme) (rest : List Char) : Prop :=
  (∃ l ∈ tokens.getLast?, ∃ v, l.token = .plain v) → Quiet rest

theorem Closes.tail {l : Lexeme} {tokens : List Lexeme} {rest : List Char}
    (h : Closes (l :: tokens) rest) : Closes tokens rest := by
  rintro ⟨last, hlast, hplain⟩
  refine h ⟨last, ?_, hplain⟩
  rw [List.getLast?_cons, hlast]
  rfl

/-- The tokens of a front are the same in a longer text. -/
theorem tokensFrom_append {s rest : List Char} (hwhole : Whole (tokensFrom offset s))
    (hclose : Closes (tokensFrom offset s) rest) (offset' : Nat) :
    ∃ front next, tokensFrom offset' (s ++ rest) = front ++ tokensFrom next rest ∧
      List.Forall₂ Lexeme.Alike (tokensFrom offset s) front := by
  fun_induction tokensFrom offset s generalizing offset' with
  | case1 offset => exact ⟨[], offset', rfl, .nil⟩
  | case2 offset c s hc ih =>
    obtain ⟨front, next, htokens, halike⟩ := ih hwhole hclose (offset' + 1)
    refine ⟨front, next, ?_, halike⟩
    rw [List.cons_append, tokensFrom, if_pos hc, htokens]
  | case3 offset c s hc r lexeme hbroken =>
    rw [hwhole lexeme (.head _)] at hbroken
    cases hbroken
  | case4 offset c s hc r lexeme hbroken ih =>
    have hsound : r.1.isBroken = false := hwhole lexeme (.head _)
    have hend : (∃ v, r.1 = .plain v) → Ends r.2.2 rest := by
      intro hplain
      cases hleft : r.2.2 with
      | cons d left => exact .cons d left rest
      | nil =>
        refine Or.inr (hclose ⟨lexeme, ?_, hplain⟩)
        rw [hleft, tokensFrom]
        rfl
    have hread : scanToken offset c s = (r.1, r.2.1, r.2.2) := rfl
    obtain ⟨t', stop', hscan, halike⟩ := scanToken_append hread hsound hend offset'
    obtain ⟨front, next, htokens, hfront⟩ :=
      ih (fun l hl => hwhole l (.tail _ hl)) hclose.tail stop'
    refine ⟨⟨offset', stop', t'⟩ :: front, next, ?_, .cons halike hfront⟩
    rw [List.cons_append, tokensFrom_token (by simpa using hc) hscan halike.isBroken, htokens]
    rfl

/-- Runs of tokens that are alike to one run are alike. -/
theorem Lexeme.alike_join {tokens front front' : List Lexeme}
    (h : List.Forall₂ Lexeme.Alike tokens front) (h' : List.Forall₂ Lexeme.Alike tokens front') :
    List.Forall₂ Lexeme.Alike front front' := by
  induction h generalizing front' with
  | nil =>
    cases h'
    exact .nil
  | cons hl _ ih =>
    cases h' with
    | cons hl' h' => exact .cons (Token.Alike.join hl hl') (ih h')

end Tokens

end FeedSearch.Json
