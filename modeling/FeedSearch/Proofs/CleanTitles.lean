-- Titles with one space between words. A text is left alone by trimming and
-- squeezing exactly if it is tidy, and every front of a tidy text is tidy but
-- maybe for its end: a title that is cut right behind a space keeps the space.
import FeedSearch.Feed.Item
import FeedSearch.Proofs.TrimmedTexts
import Mathlib.Data.List.Chain

namespace FeedSearch

namespace Text

/-! ## Tidy texts -/

/-- No blank at either end, no blank but the space, and no two of them side by side. -/
structure Tidy (s : List Char) : Prop where
  front : ∀ c ∈ s.head?, isBlank c = false
  back : ∀ c ∈ s.getLast?, isBlank c = false
  spaces : ∀ c ∈ s, isBlank c = true → c = ' '
  single : s.IsChain fun a b => isBlank a = true → isBlank b = false

/-! ## Squeezing -/

/-- A run has no space left to write before a character that is no blank. -/
theorem squeezeFrom_true {s : List Char} (h : ∀ c ∈ s.head?, isBlank c = false) :
    squeezeFrom true s = squeezeFrom false s := by
  cases s with
  | nil => rfl
  | cons c s =>
    have hc : isBlank c = false := h c rfl
    simp [squeezeFrom, hc]

theorem squeeze_eq_self {s : List Char} (hspaces : ∀ c ∈ s, isBlank c = true → c = ' ')
    (hsingle : s.IsChain fun a b => isBlank a = true → isBlank b = false) : squeeze s = s := by
  unfold squeeze
  induction s with
  | nil => rfl
  | cons c s ih =>
    obtain ⟨hc, hspaces⟩ := List.forall_mem_cons.mp hspaces
    obtain ⟨hnext, hsingle⟩ := List.isChain_cons.mp hsingle
    have hrest := ih hspaces hsingle
    by_cases hblank : isBlank c = true
    · have hsqueezed := squeezeFrom_true fun d hd => hnext d hd hblank
      simp only [squeezeFrom, hblank, if_true, Bool.false_eq_true, if_false]
      rw [hsqueezed, hrest, hc hblank]
    · simp only [squeezeFrom, hblank]
      rw [if_neg Bool.false_ne_true, hrest]

theorem squeezeFrom_spaces (s : List Char) (inRun : Bool) :
    ∀ c ∈ squeezeFrom inRun s, isBlank c = true → c = ' ' := by
  induction s generalizing inRun with
  | nil => exact nofun
  | cons d s ih =>
    intro c hc hblank
    unfold squeezeFrom at hc
    split at hc
    · split at hc
      · exact ih true c hc hblank
      · rcases List.mem_cons.mp hc with rfl | hc
        · rfl
        · exact ih true c hc hblank
    · rename_i hd
      rcases List.mem_cons.mp hc with rfl | hc
      · exact absurd hblank hd
      · exact ih false c hc hblank

/-- Behind the space of a run stands no blank, and neither does one inside of it. -/
theorem squeezeFrom_single (s : List Char) (inRun : Bool) :
    (squeezeFrom inRun s).IsChain (fun a b => isBlank a = true → isBlank b = false) ∧
      (inRun = true → ∀ c ∈ (squeezeFrom inRun s).head?, isBlank c = false) := by
  induction s generalizing inRun with
  | nil => exact ⟨.nil, fun _ => nofun⟩
  | cons d s ih =>
    unfold squeezeFrom
    split
    · obtain ⟨hsingle, hfront⟩ := ih true
      cases inRun with
      | true => exact ⟨hsingle, fun _ => hfront rfl⟩
      | false => exact ⟨List.isChain_cons.mpr ⟨fun c hc _ => hfront rfl c hc, hsingle⟩, nofun⟩
    · rename_i hd
      have hfront : ∀ c ∈ (d :: squeezeFrom false s).head?, isBlank c = false := by
        rintro c hc
        obtain rfl := Option.some.inj hc
        exact Bool.eq_false_iff.mpr hd
      refine ⟨List.isChain_cons.mpr ⟨fun c _ hblank => absurd hblank hd, (ih false).1⟩, ?_⟩
      exact fun _ => hfront

/-- A last character that is no blank stays the last. -/
theorem squeezeFrom_append (s : List Char) (inRun : Bool) {c : Char} (hc : isBlank c = false) :
    squeezeFrom inRun (s ++ [c]) = squeezeFrom inRun s ++ [c] := by
  induction s generalizing inRun with
  | nil => simp [squeezeFrom, hc]
  | cons d s ih =>
    simp only [List.cons_append, squeezeFrom, ih]
    split
    · split <;> rfl
    · rfl

/-! ## The form of single spaces -/

/-- The form of single spaces is tidy. -/
theorem tidy_squeeze (s : List Char) : Tidy (squeeze (trimChars s)) where
  front := by
    have hfront := trimChars_front s
    unfold squeeze
    cases htrim : trimChars s with
    | nil => exact nofun
    | cons c t =>
      rw [htrim] at hfront
      have hc : isBlank c = false := hfront c rfl
      simp [squeezeFrom, hc]
  back := by
    have hback := trimChars_back s
    unfold squeeze
    rcases List.eq_nil_or_concat' (trimChars s) with htrim | ⟨t, c, htrim⟩
    · rw [htrim]
      exact nofun
    · have hc : isBlank c = false := hback c (by simp [htrim])
      rw [htrim, squeezeFrom_append t false hc]
      simp [hc]
  spaces := squeezeFrom_spaces _ false
  single := (squeezeFrom_single _ false).1

/-- A text is in the form of single spaces exactly if it is tidy. -/
theorem spaced_eq_self_iff (s : String) : spaced s = s ↔ Tidy s.toList := by
  constructor
  · intro h
    rw [← h, spaced, String.toList_ofList]
    exact tidy_squeeze s.toList
  · intro h
    rw [spaced, trimChars, trimStart_eq_self h.front, trimEnd_eq_self h.back,
      squeeze_eq_self h.spaces h.single, String.ofList_toList]

/-! ## Texts without references -/

/-- A text without an ampersand is read as it is. -/
theorem decodeReferenceChars_of_none {s : List Char} (h : ∀ c ∈ s, c ≠ '&') :
    decodeReferenceChars s = s := by
  induction s with
  | nil => rw [decodeReferenceChars]
  | cons c s ih =>
    obtain ⟨hc, hs⟩ := List.forall_mem_cons.mp h
    rw [decodeReferenceChars, if_neg (by simpa using hc), ih hs]

/-! ## Cut texts -/

section Cut

variable {s : List Char} {n : Nat}

/-- A front of a tidy text has all that is tidy about it but its end. -/
theorem Tidy.take (h : Tidy s) (hback : ∀ c ∈ (s.take n).getLast?, isBlank c = false) :
    Tidy (s.take n) where
  front := by
    intro c hc
    rw [List.head?_take] at hc
    split at hc
    · cases hc
    · exact h.front c hc
  back := hback
  spaces c hc := h.spaces c (List.mem_of_mem_take hc)
  single := h.single.take n

/-- A front of a tidy text is tidy exactly if it does not end in a space. -/
theorem tidy_take_iff (h : Tidy s) : Tidy (s.take (n + 1)) ↔ s[n]? ≠ some ' ' := by
  have hlast : (s.take (n + 1)).getLast? = s[n]?.or s.getLast? := by
    rw [List.getLast?_take]
    simp
  constructor
  · intro htidy hspace
    have hblank := htidy.back ' ' (by rw [hlast, hspace]; rfl)
    exact absurd hblank (by decide)
  · intro hspace
    apply h.take
    intro c hc
    rw [hlast] at hc
    by_contra hblank
    rw [Bool.not_eq_false] at hblank
    cases hn : s[n]? with
    | none =>
      rw [hn, Option.none_or] at hc
      exact Bool.eq_false_iff.mp (h.back c hc) hblank
    | some d =>
      rw [hn, Option.some_or] at hc
      obtain rfl := Option.some.inj hc
      rw [hn, h.spaces d (List.mem_of_getElem? hn) hblank] at hspace
      exact hspace rfl

/-- Right before a space of a tidy text there is none. -/
theorem tidy_take_space (h : Tidy s) (hspace : s[n]? = some ' ') : Tidy (s.take n) := by
  cases n with
  | zero => exact ⟨nofun, nofun, nofun, .nil⟩
  | succ n =>
    apply (tidy_take_iff h).mpr
    intro hbefore
    obtain ⟨hn, _⟩ := List.getElem?_eq_some_iff.mp hspace
    have hsingle := List.isChain_iff_getElem.mp h.single n hn
    rw [List.getElem?_eq_some_iff] at hbefore hspace
    obtain ⟨_, hbefore⟩ := hbefore
    obtain ⟨_, hspace⟩ := hspace
    rw [hbefore, hspace] at hsingle
    exact absurd hsingle (by decide)

/-- A space at the end goes when a text is brought into the form of single spaces. -/
theorem spaced_append_space (h : Tidy s) :
    spaced (String.ofList (s ++ [' '])) = String.ofList s := by
  have htrim : trimChars (s ++ [' ']) = s := by
    cases s with
    | nil => decide
    | cons c s =>
      have hfront : ∀ d ∈ (c :: s ++ [' ']).head?, isBlank d = false := h.front
      have hback : trimEnd (c :: s ++ [' ']) = trimEnd (c :: s) :=
        List.rdropWhile_concat_pos isBlank (c :: s) ' ' (by decide)
      rw [trimChars, trimStart_eq_self hfront, hback, trimEnd_eq_self h.back]
  rw [spaced, String.toList_ofList, htrim, squeeze_eq_self h.spaces h.single]

end Cut

end Text

namespace Feed

/-! ## Titles -/

/-- A title before it is cut. -/
def uncutTitle (raw : String) : String := Text.spaced (Text.decodeReferences raw)

theorem tidy_uncutTitle (raw : String) : Text.Tidy (uncutTitle raw).toList := by
  rw [uncutTitle, Text.spaced, String.toList_ofList]
  exact Text.tidy_squeeze _

/-- A title is never too long, and it is left alone by bringing it into the form of single spaces
exactly if it is tidy. So it is, unless the last character that is kept of it is a space: then this
one space is too much, and nothing else is. -/
theorem a_title_is_tidy_unless_it_is_cut_behind_a_space (raw : String) :
    (cleanTitle raw).length ≤ maxTitle ∧
    (Text.spaced (cleanTitle raw) = cleanTitle raw ↔ Text.Tidy (cleanTitle raw).toList) ∧
    (Text.Tidy (cleanTitle raw).toList ↔ (uncutTitle raw).toList[maxTitle - 1]? ≠ some ' ') ∧
    (cleanTitle raw = Text.spaced (cleanTitle raw) ∨
      cleanTitle raw = Text.spaced (cleanTitle raw) ++ " ") := by
  have hwhole := tidy_uncutTitle raw
  have hcut : (cleanTitle raw).toList = (uncutTitle raw).toList.take (maxTitle - 1 + 1) := by
    rw [cleanTitle, String.toList_ofList]
    rfl
  have htidy : Text.Tidy (cleanTitle raw).toList ↔
      (uncutTitle raw).toList[maxTitle - 1]? ≠ some ' ' := by
    rw [hcut]
    exact Text.tidy_take_iff hwhole
  refine ⟨?_, Text.spaced_eq_self_iff _, htidy, ?_⟩
  · rw [← String.length_toList, hcut]
    exact List.length_take_le _ _
  · by_cases hspace : (uncutTitle raw).toList[maxTitle - 1]? = some ' '
    · right
      obtain ⟨hlong, hlast⟩ := List.getElem?_eq_some_iff.mp hspace
      have hchars : cleanTitle raw =
          String.ofList ((uncutTitle raw).toList.take (maxTitle - 1) ++ [' ']) := by
        rw [← hlast, ← List.take_succ_eq_append_getElem hlong, ← hcut, String.ofList_toList]
      rw [hchars, Text.spaced_append_space (Text.tidy_take_space hwhole hspace),
        String.ofList_append]
    · exact Or.inl ((Text.spaced_eq_self_iff _).mpr (htidy.mpr hspace)).symm

/-- A word of 499 letters. -/
def longWord : List Char := List.replicate 499 'a'

/-- A word of 499 letters, and a short one. -/
def longTitle : String := String.ofList (longWord ++ [' ', 'b'])

/-- The second word goes, and the space before it stays. -/
theorem a_long_word_keeps_the_space_behind_it :
    cleanTitle longTitle = String.ofList (longWord ++ [' ']) ∧
      Text.spaced (cleanTitle longTitle) ≠ cleanTitle longTitle := by
  have hplain : ∀ c ∈ longWord ++ [' ', 'b'], c ≠ '&' := by
    refine List.forall_mem_append.mpr ⟨fun c hc => ?_, by simp⟩
    rw [(List.mem_replicate.mp hc).2]
    decide
  have hcut : (Text.squeeze (Text.trimChars (longWord ++ [' ', 'b']))).take maxTitle =
      longWord ++ [' '] := by decide +kernel
  have htitle : cleanTitle longTitle = String.ofList (longWord ++ [' ']) := by
    simp only [cleanTitle, longTitle, Text.spaced, Text.decodeReferences, String.toList_ofList,
      Text.decodeReferenceChars_of_none hplain, hcut]
  refine ⟨htitle, fun hspaced => ?_⟩
  have htidy := (Text.spaced_eq_self_iff _).mp hspaced
  rw [htitle, String.toList_ofList] at htidy
  exact absurd (htidy.back ' ' (by simp)) (by decide)

end Feed

end FeedSearch
