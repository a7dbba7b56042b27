-- What a key of the cache says. The digits of a digest are read back, and from
-- the octets of a key its parts are read from the end, where no part but the query
-- can hold a separator. So the requests of one key, digests not colliding, ask for
-- one list of hits.
import FeedSearch.Proofs.LowercaseWords
import FeedSearch.Proofs.StoreReads
import FeedSearch.Search.Key

namespace FeedSearch

/-! ## Digits -/

namespace Digest

open Text

theorem hexDigit_injective : ∀ m < 16, ∀ n < 16, hexDigit m = hexDigit n → m = n := by decide

/-- The digits of octets tell the octets. -/
theorem hexText_injective {xs ys : List UInt8} (h : hexText xs = hexText ys) : xs = ys := by
  have hchars := String.ofList_injective h
  clear h
  induction xs generalizing ys with
  | nil =>
    cases ys with
    | nil => rfl
    | cons y ys => simp at hchars
  | cons x xs ih =>
    cases ys with
    | nil => simp at hchars
    | cons y ys =>
      simp only [List.flatMap_cons, List.cons_append, List.nil_append, List.cons.injEq] at hchars
      obtain ⟨hhigh, hlow, hrest⟩ := hchars
      have hx := x.toNat_lt
      have hy := y.toNat_lt
      have hhigh := hexDigit_injective _ (by omega) _ (by omega) hhigh
      have hlow := hexDigit_injective _ (by omega) _ (by omega) hlow
      rw [UInt8.toNat_inj.mp (by omega : x.toNat = y.toNat), ih hrest]

end Digest

/-! ## Octets of texts -/

namespace Text.Utf8

/-- Reading octets from some place on puts what is left of them after those already read. -/
theorem toList_loop (bytes : ByteArray) (i : Nat) (read : List UInt8) :
    ByteArray.toList.loop bytes i read = read.reverse ++ bytes.data.toList.drop i := by
  fun_induction ByteArray.toList.loop bytes i read with
  | case1 i read hmore ih =>
    have hleft : i < bytes.data.toList.length := hmore
    have hget : bytes.get! i = bytes.data.toList[i] := by
      rw [Array.getElem_toList]
      exact getElem!_pos bytes.data i hmore
    rw [ih, hget, List.reverse_cons, List.append_assoc, List.drop_eq_getElem_cons hleft]
    rfl
  | case2 i read hdone =>
    have hleft : bytes.data.toList.length ≤ i := Nat.le_of_not_lt hdone
    rw [List.drop_eq_nil_of_le hleft, List.append_nil]

/-- The octets of a text tell the text. -/
theorem encode_injective {s t : String} (h : encode s = encode t) : s = t := by
  simp only [encode, ByteArray.toList, toList_loop, List.reverse_nil, List.nil_append,
    List.drop_zero, String.toUTF8_eq_toByteArray] at h
  exact String.toByteArray_inj.mp (ByteArray.ext (Array.toList_inj.mp h))

end Text.Utf8

/-! ## Parts of keys -/

namespace Search

open Text.Utf8

/-- What stands after the last separator is read back, and so is what stands before it. -/
theorem last_part_inj {α : Type} {mark : α} {s s' w w' : List α} (hw : mark ∉ w) (hw' : mark ∉ w')
    (h : s ++ mark :: w = s' ++ mark :: w') : s = s' ∧ w = w' := by
  rcases List.append_eq_append_iff.mp h with ⟨t, hs, hmark⟩ | ⟨t, hs, hmark⟩
  · cases t with
    | nil => exact ⟨by simpa using hs.symm, (List.cons.inj hmark).2⟩
    | cons c t =>
      have hinside : w = t ++ mark :: w' := (List.cons.inj hmark).2
      exact absurd (by simp [hinside]) hw
  · cases t with
    | nil => exact ⟨by simpa using hs, (List.cons.inj hmark).2.symm⟩
    | cons c t =>
      have hinside : w' = t ++ mark :: w := (List.cons.inj hmark).2
      exact absurd (by simp [hinside]) hw'

theorem filterName_unmarked (k : Option Kind) : keySeparator ∉ encode (filterName k) := by
  rcases k with _ | _ | _ <;> decide +kernel

theorem sortBy_unmarked (k : SortKey) : keySeparator ∉ encode k.name := by
  cases k <;> decide +kernel

theorem sortOrder_unmarked (o : SortOrder) : keySeparator ∉ encode o.name := by
  cases o <;> decide +kernel

theorem filterName_injective : ∀ {k k' : Option Kind}, filterName k = filterName k' → k = k' := by
  rintro (_ | _ | _) (_ | _ | _) <;> simp [filterName, Kind.name]

theorem SortKey.name_injective {k k' : SortKey} (h : k.name = k'.name) : k = k' := by
  cases k <;> cases k' <;> simp [SortKey.name] at h ⊢

theorem SortOrder.name_injective {o o' : SortOrder} (h : o.name = o'.name) : o = o' := by
  cases o <;> cases o' <;> simp [SortOrder.name] at h ⊢

/-- Requests have keys of the same parts if they say the same, the page apart. -/
theorem keyParts_eq_iff (a b : Request) :
    keyParts a = keyParts b ↔
      Text.lowercase (Text.spaced a.query) = Text.lowercase (Text.spaced b.query) ∧
        a.kind = b.kind ∧ a.sortBy = b.sortBy ∧ a.sortOrder = b.sortOrder := by
  constructor
  · intro h
    simp only [keyParts, List.cons.injEq, and_true] at h
    obtain ⟨hquery, hkind, hsort, horder⟩ := h
    exact ⟨hquery, filterName_injective hkind, SortKey.name_injective hsort,
      SortOrder.name_injective horder⟩
  · rintro ⟨hquery, hkind, hsort, horder⟩
    unfold keyParts
    rw [hquery, hkind, hsort, horder]

/-- The octets of a key tell its parts, whatever marks the query holds. -/
theorem keyOctets_inj {a b : Request} (h : keyOctets a = keyOctets b) :
    keyParts a = keyParts b := by
  have hsplit : ∀ r : Request, keyOctets r =
      (((encode (Text.lowercase (Text.spaced r.query)) ++
        keySeparator :: encode (filterName r.kind)) ++
        keySeparator :: encode r.sortBy.name) ++
        keySeparator :: encode r.sortOrder.name) ++
        keySeparator :: [] := fun r => by simp [keyOctets, keyParts]
  rw [hsplit a, hsplit b] at h
  obtain ⟨h, -⟩ := last_part_inj (by simp) (by simp) h
  obtain ⟨h, horder⟩ := last_part_inj (sortOrder_unmarked _) (sortOrder_unmarked _) h
  obtain ⟨h, hsort⟩ := last_part_inj (sortBy_unmarked _) (sortBy_unmarked _) h
  obtain ⟨hquery, hkind⟩ := last_part_inj (filterName_unmarked _) (filterName_unmarked _) h
  simp only [keyParts, encode_injective hquery, encode_injective hkind, encode_injective hsort,
    encode_injective horder]

/-- A key tells the octets that it is made from, if their digests do. -/
theorem keyOctets_of_cacheKey {a b : Request}
    (hdigest : Digest.sha256 (keyOctets a) = Digest.sha256 (keyOctets b) →
      keyOctets a = keyOctets b)
    (h : cacheKey a = cacheKey b) : keyOctets a = keyOctets b :=
  hdigest (Digest.hexText_injective ((String.append_right_inj _).mp h))

/-! ## The law -/

/-- The terms of a query are the words of the text that its key is made from. -/
theorem terms_eq_words (query : String) :
    Store.terms query = Text.words (Text.lowercase (Text.spaced query)).toList :=
  (Text.words_lowercase_spaced query).symm

/-- Requests whose keys have the same parts ask for the same rows in the same order. -/
theorem hits_of_keyParts (s : Store) {a b : Request} (h : keyParts a = keyParts b) :
    s.hits a = s.hits b := by
  obtain ⟨hquery, hkind, hsort, horder⟩ := (keyParts_eq_iff a b).mp h
  have hterms : Store.terms a.query = Store.terms b.query := by
    rw [terms_eq_words, hquery, terms_eq_words]
  simp only [Store.hits, hterms, hkind, hsort, horder]

/-- Two requests of one key, their digests not colliding, get the same hits in the same order from
every store, and the same number of them, on pages of every size; a first page that has room for all
hits gives all of them to both. -/
theorem requests_of_one_key_share_their_hits (s : Store) {a b : Request}
    (hdigest : Digest.sha256 (keyOctets a) = Digest.sha256 (keyOctets b) →
      keyOctets a = keyOctets b)
    (hkey : cacheKey a = cacheKey b) :
    s.hits a = s.hits b ∧
      (∀ page pageSize,
        s.search { a with page, pageSize } = s.search { b with page, pageSize }) ∧
      ∀ pageSize, (s.hits a).length ≤ pageSize → pageSize ≤ Number.maxCount →
        s.search { a with page := 1, pageSize } = (s.hits a, (s.hits a).length) ∧
        s.search { b with page := 1, pageSize } = (s.hits a, (s.hits a).length) := by
  have hhits : s.hits a = s.hits b :=
    hits_of_keyParts s (keyOctets_inj (keyOctets_of_cacheKey hdigest hkey))
  have hpages : ∀ page pageSize,
      s.search { a with page, pageSize } = s.search { b with page, pageSize } := by
    intro page pageSize
    simp only [Store.search, Store.hits_page, hhits]
  refine ⟨hhits, hpages, fun pageSize hroom hcount => ?_⟩
  have hall : s.search { a with page := 1, pageSize } = (s.hits a, (s.hits a).length) := by
    simp only [Store.search, Store.hits_page, paginate_one_of_le _ hcount]
    rw [List.take_of_length_le hroom]
  exact ⟨hall, hpages 1 pageSize ▸ hall⟩

/-- A street of a town, shouted with odd gaps. -/
def shouted : Request :=
  { Request.ofQuery "\u00a0ΟΔΟΣ   ΑΘΗΝΑΣ " with page := 2, pageSize := 5 }

/-- The same street, written as one does. -/
def spoken : Request := .ofQuery "οδος αθηνας"

/-- Two films of the street and one of another. -/
def streets : Store :=
  (Store.empty.upsertAll [.unseen "films" "1" "Αθηνας, οδος", .unseen "films" "2" "οδος Ερμου",
    .unseen "films" "3" "ΑΘΗΝΑΣ ΟΔΟΣ"]).2

/-- The end of a word takes the small sigma of its place wherever the word stands. -/
theorem a_street_is_found_however_it_is_called :
    cacheKey shouted = cacheKey spoken ∧ streets.hits shouted = streets.hits spoken ∧
      (streets.hits spoken).length = 2 := by
  have hoctets : keyOctets shouted = keyOctets spoken := by decide +kernel
  have hkey : cacheKey shouted = cacheKey spoken := by rw [cacheKey, hoctets, cacheKey]
  refine ⟨hkey, (requests_of_one_key_share_their_hits streets (fun _ => hoctets) hkey).1, ?_⟩
  rw [Store.hits, List.length_mergeSort]
  decide +kernel

end Search

end FeedSearch
