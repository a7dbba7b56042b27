-- Requests in their normal form. The form of single spaces is the words of a text
-- with one space between them, and limits hold a page size between one and the
-- largest. What is in this form already is left alone, so nothing changes twice.
import FeedSearch.Proofs.LowercaseWords
import FeedSearch.Proofs.RequestKeys
import FeedSearch.Store

namespace FeedSearch

namespace Text

/-! ## Words with one space between them -/

/-- What is left of a tidy text behind one of its spaces is tidy, and there is some of it. -/
theorem Tidy.behind {w t : List Char} {b : Char} (h : Tidy (w ++ b :: t)) (hb : isBlank b = true) :
    Tidy t ∧ t ≠ [] := by
  have hchain : (b :: t).IsChain fun a c => isBlank a = true → isBlank c = false :=
    h.single.right_of_append
  obtain ⟨hnext, hsingle⟩ := List.isChain_cons.mp hchain
  have hne : t ≠ [] := by
    rintro rfl
    have hlast := h.back b (by simp)
    rw [hb] at hlast
    cases hlast
  refine ⟨⟨fun c hc => hnext c hc hb, fun c hc => ?_, fun c hc => ?_, hsingle⟩, hne⟩
  · apply h.back c
    rw [List.getLast?_append, List.getLast?_cons, hc]
    rfl
  · exact h.spaces c (List.mem_append_right _ (List.mem_cons_of_mem _ hc))

/-- A tidy text is its words with one space between them. -/
theorem Tidy.intercalate_words {s : List Char} (h : Tidy s) : [' '].intercalate (words s) = s := by
  induction s using blank_induction with
  | word w hw =>
    by_cases hne : w = []
    · rw [hne, words_nil]
      rfl
    · rw [words_of_no_blank hw hne, List.intercalate_singleton]
  | gap w b t hw hb ih =>
    obtain ⟨htidy, hne⟩ := h.behind hb
    have hspace : b = ' ' := h.spaces b (by simp) hb
    have hword : w ≠ [] := by
      rintro rfl
      have hfront := h.front b rfl
      rw [hb] at hfront
      cases hfront
    have hrest := ih htidy
    rw [words_append_blank w t hb, words_of_no_blank hw hword]
    cases hwords : words t with
    | nil =>
      rw [hwords] at hrest
      exact absurd hrest.symm hne
    | cons v vs =>
      rw [hwords] at hrest
      rw [List.singleton_append, List.intercalate_cons_cons, hrest, hspace]
      simp

/-- The form of single spaces is the words of the text with one space between them. -/
theorem spaced_eq_intercalate (s : String) :
    spaced s = " ".intercalate ((words s.toList).map String.ofList) := by
  have htidy : Tidy (spaced s).toList := by
    rw [spaced, String.toList_ofList]
    exact tidy_squeeze s.toList
  have hwords := htidy.intercalate_words
  rw [words_spaced] at hwords
  rw [← String.toList_inj, String.toList_intercalate, ← hwords, List.map_map]
  congr 1
  exact (List.map_id'' (fun w => String.toList_ofList) _).symm

end Text

namespace Search

variable {limits : PageLimits} {r : Request}

/-! ## Limits -/

theorem PageLimits.pageSize_pos (limits : PageLimits) (wanted : Nat) :
    1 ≤ limits.pageSize wanted := by
  unfold PageLimits.pageSize
  by_cases h : wanted = 0
  · simp only [h, beq_self_eq_true, if_true]
    omega
  · simp only [beq_eq_false_iff_ne.mpr h, Bool.false_eq_true, if_false]
    omega

theorem PageLimits.pageSize_le (limits : PageLimits) (wanted : Nat) :
    limits.pageSize wanted ≤ max 1 limits.maxPageSize := by
  rw [Nat.max_comm]
  exact Nat.min_le_right _ _

/-- A page size within the limits stays. -/
theorem PageLimits.pageSize_eq_self {wanted : Nat} (hpos : 1 ≤ wanted)
    (hle : wanted ≤ max 1 limits.maxPageSize) : limits.pageSize wanted = wanted := by
  have hne : (wanted == 0) = false := beq_eq_false_iff_ne.mpr (by omega)
  unfold PageLimits.pageSize
  simp only [hne, Bool.false_eq_true, if_false]
  omega

/-! ## The normal form -/

/-- Single spaces in the query, a page, and a page size within the limits. -/
structure InForm (limits : PageLimits) (r : Request) : Prop where
  query : Text.spaced r.query = r.query
  page : 1 ≤ r.page
  pageSize : 1 ≤ r.pageSize
  fits : r.pageSize ≤ max 1 limits.maxPageSize

theorem inForm_normalize (limits : PageLimits) (r : Request) :
    InForm limits (normalize limits r) where
  query := Text.spaced_spaced r.query
  page := by
    unfold normalize
    simp only [beq_iff_eq]
    split <;> omega
  pageSize := limits.pageSize_pos r.pageSize
  fits := limits.pageSize_le r.pageSize

/-- The requests in normal form are those that are left alone. -/
theorem normalize_eq_self_iff : normalize limits r = r ↔ InForm limits r := by
  constructor
  · intro h
    rw [← h]
    exact inForm_normalize limits r
  · intro h
    have hpage : (r.page == 0) = false := beq_eq_false_iff_ne.mpr (by have := h.page; omega)
    simp only [normalize, h.query, hpage, Bool.false_eq_true, if_false,
      limits.pageSize_eq_self h.pageSize h.fits]

/-! ## The law -/

/-- The form of single spaces is the words of a text with one space between them: it has the same
words, and stays as it is if it is made again. A request is brought into its normal form once and
for all, whatever the limits are, even if they contradict each other: then the page and its size are
one at least, the size is no larger than the largest, and the filter, the order, a page that is
given and a size within the limits are those of the request. -/
theorem a_request_is_brought_into_form_once :
    (∀ s : String,
      Text.spaced s = " ".intercalate ((Text.words s.toList).map String.ofList) ∧
      Text.spaced (Text.spaced s) = Text.spaced s ∧
      Text.words (Text.spaced s).toList = Text.words s.toList) ∧
    ∀ (limits : PageLimits) (r : Request),
      let n := normalize limits r
      normalize limits n = n ∧
      n.query = Text.spaced r.query ∧ Store.terms n.query = Store.terms r.query ∧
      1 ≤ n.page ∧ 1 ≤ n.pageSize ∧ n.pageSize ≤ max 1 limits.maxPageSize ∧
      n.kind = r.kind ∧ n.sortBy = r.sortBy ∧ n.sortOrder = r.sortOrder ∧
      (r.page ≠ 0 → n.page = r.page) ∧
      (1 ≤ r.pageSize → r.pageSize ≤ max 1 limits.maxPageSize → n.pageSize = r.pageSize) := by
  refine ⟨fun s => ⟨Text.spaced_eq_intercalate s, Text.spaced_spaced s, Text.words_spaced s⟩, ?_⟩
  intro limits r n
  have hform : InForm limits n := inForm_normalize limits r
  refine ⟨normalize_eq_self_iff.mpr hform, rfl, ?_, hform.page, hform.pageSize, hform.fits, rfl,
    rfl, rfl, fun hpage => ?_, limits.pageSize_eq_self⟩
  · exact congrArg (List.map Text.lowerChars) (Text.words_spaced r.query)
  · exact if_neg (by simpa using hpage)

/-- The default is above the largest size, and blanks of three kinds stand between the words. -/
theorem a_request_meets_limits_that_contradict_each_other :
    let limits : PageLimits := { defaultPageSize := 50, maxPageSize := 10 }
    let given : Request := { Request.ofQuery " Solar\t\u3000panels " with page := 3, pageSize := 7 }
    let unsized : Request := { given with pageSize := 0 }
    (normalize limits given).query = "Solar panels" ∧ (normalize limits given).page = 3 ∧
      (normalize limits given).pageSize = 7 ∧ (normalize limits unsized).pageSize = 10 := by
  intro limits given unsized
  obtain ⟨_, hnormal⟩ := a_request_is_brought_into_form_once
  obtain ⟨_, hquery, _, _, _, _, _, _, _, hpage, hsize⟩ := hnormal limits given
  refine ⟨hquery.trans ?_, hpage (by decide), hsize (by decide) (by decide), by decide⟩
  decide +kernel

end Search

end FeedSearch
