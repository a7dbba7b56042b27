-- What a cache key tells apart. Single spaces are put once and for all, so a
-- request has its key before and after it is brought within its limits. Two keys
-- are made from the same octets for the same words, filter and order, and a query
-- that holds separators does not pass for another request.
import FeedSearch.Proofs.CacheKeys
import FeedSearch.Proofs.CleanTitles
import FeedSearch.Search.Paging

namespace FeedSearch

/-! ## Single spaces -/

/-- A text in the form of single spaces is left as it is. -/
theorem Text.spaced_spaced (s : String) : spaced (spaced s) = spaced s := by
  rw [spaced_eq_self_iff]
  have htidy : Tidy (squeeze (trimChars s.toList)) := tidy_squeeze s.toList
  unfold spaced
  rw [String.toList_ofList]
  exact htidy

namespace Search

/-! ## Parts of keys -/

/-- The octets of a key tell its parts, and nothing else. -/
theorem keyOctets_eq_iff (a b : Request) : keyOctets a = keyOctets b ↔ keyParts a = keyParts b := by
  refine ⟨keyOctets_inj, fun h => ?_⟩
  unfold keyOctets
  rw [h]

theorem cacheKey_of_keyParts {a b : Request} (h : keyParts a = keyParts b) :
    cacheKey a = cacheKey b := by
  unfold cacheKey
  rw [(keyOctets_eq_iff a b).mpr h]

/-- Limits change the page and the spaces of a query. -/
theorem keyParts_normalize (limits : PageLimits) (r : Request) :
    keyParts (normalize limits r) = keyParts r := by
  simp only [keyParts, normalize, Text.spaced_spaced]

/-! ## The law -/

/-- Two keys are made from the same octets exactly if the queries have the same words up to case,
and filters and orders are the same. The page plays no part, and a request within its limits keeps
its key. -/
theorem a_key_tells_the_words_the_filter_and_the_order (a b : Request) :
    (keyOctets a = keyOctets b ↔
      Text.lowercase (Text.spaced a.query) = Text.lowercase (Text.spaced b.query) ∧
        a.kind = b.kind ∧ a.sortBy = b.sortBy ∧ a.sortOrder = b.sortOrder) ∧
      (∀ page pageSize, cacheKey { a with page, pageSize } = cacheKey a) ∧
      ∀ limits, cacheKey (normalize limits a) = cacheKey a := by
  refine ⟨?_, ?_, ?_⟩
  · rw [keyOctets_eq_iff, keyParts_eq_iff]
  · intro page pageSize
    have hparts : keyParts { a with page, pageSize } = keyParts a := rfl
    exact cacheKey_of_keyParts hparts
  · intro limits
    exact cacheKey_of_keyParts (keyParts_normalize limits a)

/-- A query that writes out the parts of a request for films is not taken for that request. -/
example : keyOctets (.ofQuery "rust\x1fvideo\x1fscore\x1fdesc") ≠
    keyOctets { Request.ofQuery "rust" with kind := some .video } := by decide +kernel

end Search

end FeedSearch
