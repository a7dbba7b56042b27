-- What a read of the store gives. A request decides by its query, its filter
-- and its order which rows it gets; its page only cuts the list of them. Rows
-- are added and changed, but never taken away.
import FeedSearch.Proofs.Pages
import FeedSearch.Search.Backend

namespace FeedSearch

namespace Store

/-! ## Rows are never taken away -/

theorem upsertOne_size (s : Store) (r : Record) : s.size ≤ (s.upsertOne r).2.size := by
  unfold upsertOne size
  split
  · simp
  · simp

theorem upsertAll_size (s : Store) (records : List Record) :
    s.size ≤ (s.upsertAll records).2.size := by
  induction records generalizing s with
  | nil => exact Nat.le_refl _
  | cons r rest ih => exact Nat.le_trans (upsertOne_size s r) (ih _)

theorem upsert_size {s s' : Store} {records : List Record} {ids : List Int}
    (h : s.upsert records = .ok (ids, s')) : s.size ≤ s'.size := by
  unfold upsert at h
  split at h
  · cases h
  · have hu := upsertAll_size s records
    rw [Except.ok.inj h] at hu
    exact hu

/-! ## Lists of hits -/

theorem hits_length_le (s : Store) (r : Request) : (s.hits r).length ≤ s.size := by
  unfold hits
  simp only [List.length_mergeSort]
  apply Nat.le_trans (List.length_filter_le _ _)
  simp [rows, size]

/-- Which page is asked for does not decide which rows are hits. -/
@[simp] theorem hits_page (s : Store) (r : Request) (page pageSize : Nat) :
    s.hits { r with page, pageSize } = s.hits r := rfl

/-- A page of all hits is all of them, if they can be counted. -/
theorem search_whole (s : Store) (r : Request) (h : s.size ≤ Number.maxCount) :
    (s.search { r with page := 1, pageSize := (s.hits r).length }).1 = s.hits r := by
  have hle := Nat.le_trans (hits_length_le s r) h
  unfold search
  simp only [hits_page]
  rw [Search.paginate_one_of_le _ hle, List.take_length]

end Store

namespace Search.StoreLink

/-! ## Calls over a link -/

@[simp] theorem call_store (l : StoreLink) (op : StoreOperation) : (l.call op).2.store = l.store :=
  rfl

@[simp] theorem search_store (l : StoreLink) (r : Request) : (l.search r).2.store = l.store := by
  unfold search
  split
  · rename_i h; rw [← call_store l .search, h]
  · rename_i h; rw [← call_store l .search, h]

/-- A read that is answered is answered from the rows. -/
theorem search_ok {l l' : StoreLink} {r : Request} {items : List Record} {total : Nat}
    (h : l.search r = (.ok (items, total), l')) : l.store.search r = (items, total) := by
  unfold search at h
  split at h
  · cases h
  · rename_i hc
    have hs := call_store l .search
    rw [hc] at hs
    simp only [Prod.mk.injEq, Except.ok.injEq] at h
    rw [← hs]
    exact h.1

/-- A write that fails leaves the rows as they are; one that does not writes the batch. -/
theorem upsert_store (l : StoreLink) (records : List Record) :
    (∃ e, (l.upsert records).1 = .error e ∧ (l.upsert records).2.store = l.store) ∨
      ∃ ids, (l.upsert records).1 = .ok ids ∧
        l.store.upsert records = .ok (ids, (l.upsert records).2.store) := by
  unfold upsert
  split
  · rename_i e l' hc
    exact Or.inl ⟨e, rfl, by rw [← call_store l .upsert, hc]⟩
  · rename_i l' hc
    have hs : l'.store = l.store := by rw [← call_store l .upsert, hc]
    rw [hs]
    split
    · exact Or.inl ⟨_, rfl, hs⟩
    · rename_i ids s hu
      exact Or.inr ⟨ids, rfl, hu⟩

/-! ## A store within reach -/

/-- A store that is never out of reach. -/
def InReach (l : StoreLink) : Prop := ∀ op n, l.isOut op n = false

theorem InReach.call {l : StoreLink} (h : l.InReach) (op : StoreOperation) :
    ∃ l', l.call op = (.ok (), l') ∧ l'.store = l.store ∧ l'.InReach :=
  ⟨(l.call op).2, by simp [StoreLink.call, h op], rfl, h⟩

theorem InReach.search {l : StoreLink} (h : l.InReach) (r : Request) :
    ∃ l', l.search r = (.ok (l.store.search r), l') ∧ l'.store = l.store ∧ l'.InReach := by
  obtain ⟨l', hc, hs, hin⟩ := h.call .search
  exact ⟨l', by simp only [StoreLink.search, hc, hs], hs, hin⟩

theorem InReach.upsert {l : StoreLink} (h : l.InReach) {batch : List Record} {ids : List Int}
    {s : Store} (hu : l.store.upsert batch = .ok (ids, s)) :
    ∃ l', l.upsert batch = (.ok ids, l') ∧ l'.store = s ∧ l'.InReach := by
  obtain ⟨l', hc, hs, hin⟩ := h.call .upsert
  exact ⟨{ l' with store := s }, by simp only [StoreLink.upsert, hc, hs, hu], rfl, hin⟩

end Search.StoreLink

end FeedSearch
