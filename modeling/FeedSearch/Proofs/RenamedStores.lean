-- Stores that differ in the ids of new rows alone. A batch may be shuffled as long
-- as the records of each provider keep their order: every key has the same records
-- then, and so the same row, but for its rank. The keys of the two stores are matched
-- by a renaming of ids that leaves the ids of older rows alone.
import FeedSearch.Proofs.ResultOrder
import FeedSearch.Proofs.RowsOfBatches
import FeedSearch.Proofs.StoreReads
import Mathlib.Data.List.Forall2
import Mathlib.Logic.Equiv.Defs

namespace FeedSearch

/-- A record whose id, if it has one, is replaced. -/
def Record.renamed (ρ : Int → Int) (r : Record) : Record := { r with id := r.id.map ρ }

namespace Store

/-! ## The row of a key -/

section Entries

variable {taken : List Record} {s : Store}

/-- The row of a key with its id, from the records of the key. -/
def entryOf (taken : List Record) (key : NaturalKey) : Int × Record :=
  let first := (occurrences taken key).head?.getD default
  let last := (occurrences taken key).getLast?.getD default
  (rank taken key,
    { last with
      id := some (rank taken key)
      providerId := first.providerId
      provider := first.provider
      createdAt := first.createdAt })

theorem Stands.eq_entryOf {e : Int × Record} (h : Stands taken e) :
    e = entryOf taken e.2.naturalKey := by
  obtain ⟨first, last, hfirst, hlast, hid, hrow⟩ := h
  apply Prod.ext
  · exact hid
  · simp only [entryOf, hfirst, hlast, Option.getD_some]
    rw [← hid]
    exact hrow

/-- The rows of a store, from the records that it has taken. -/
theorem Booked.byId_eq (h : Booked taken s) : s.byId = (keysOf taken).map (entryOf taken) := by
  rw [← h.keys, Store.rows, List.map_map, List.map_map]
  exact (List.map_id _).symm.trans (List.map_congr_left fun e he => (h.rows e he).eq_entryOf)

/-- The ranks of the keys are the numbers from 1 on. -/
theorem rank_range {id : Int} :
    (∃ key ∈ keysOf taken, rank taken key = id) ↔ 1 ≤ id ∧ id ≤ (keysOf taken).length := by
  constructor
  · rintro ⟨key, hkey, rfl⟩
    have := List.idxOf_lt_length_of_mem hkey
    unfold rank
    omega
  · rintro ⟨hlow, hhigh⟩
    have hplace : (id - 1).toNat < (keysOf taken).length := by omega
    refine ⟨(keysOf taken)[(id - 1).toNat], List.getElem_mem hplace, ?_⟩
    rw [rank, (keysOf_nodup taken).idxOf_getElem _ hplace]
    omega

end Entries

/-! ## Shuffled batches -/

/-- Every provider has the same records in both lists, in the same order. -/
def SameByProvider (xs ys : List Record) : Prop :=
  ∀ p, xs.filter (·.provider == p) = ys.filter (·.provider == p)

namespace SameByProvider

variable {xs ys : List Record}

theorem append_left (taken : List Record) (h : SameByProvider xs ys) :
    SameByProvider (taken ++ xs) (taken ++ ys) := fun p => by
  rw [List.filter_append, List.filter_append, h p]

/-- A change of the records that leaves their providers may be made on both sides. -/
theorem map (h : SameByProvider xs ys) {f : Record → Record}
    (hf : ∀ r, (f r).provider = r.provider) : SameByProvider (xs.map f) (ys.map f) := fun p => by
  have hcomp : ((·.provider == p) ∘ f : Record → Bool) = (·.provider == p) := by
    funext r
    rw [Function.comp, hf]
  rw [List.filter_map, List.filter_map, hcomp, h p]

theorem occurrences_eq (h : SameByProvider xs ys) (key : NaturalKey) :
    occurrences xs key = occurrences ys key := by
  have hprovider : ∀ zs : List Record, occurrences zs key =
      (zs.filter (·.provider == key.provider)).filter (·.naturalKey == key) := by
    intro zs
    rw [List.filter_filter]
    refine List.filter_congr fun r _ => ?_
    rw [Bool.eq_iff_iff]
    simp only [beq_iff_eq, Bool.and_eq_true]
    exact ⟨fun hkey => ⟨hkey, hkey ▸ rfl⟩, And.left⟩
  rw [hprovider xs, hprovider ys, h key.provider]

theorem mem_iff (h : SameByProvider xs ys) {r : Record} : r ∈ xs ↔ r ∈ ys := by
  have hlist : ∀ zs : List Record, r ∈ zs ↔ r ∈ zs.filter (·.provider == r.provider) := by
    intro zs
    simp
  rw [hlist xs, hlist ys, h r.provider]

theorem keys_perm (h : SameByProvider xs ys) : (keysOf xs).Perm (keysOf ys) := by
  rw [List.perm_ext_iff_of_nodup (keysOf_nodup xs) (keysOf_nodup ys)]
  intro key
  simp only [mem_keysOf, h.mem_iff]

end SameByProvider

/-! ## Renaming -/

/-- The id that the key of an id has after other records; an id of no key stays. -/
def rerank (xs ys : List Record) (id : Int) : Int :=
  match (keysOf xs).find? (rank xs · == id) with
  | some key => rank ys key
  | none => id

section Renaming

variable {xs ys : List Record}

theorem rerank_rank {key : NaturalKey} (hkey : key ∈ keysOf xs) :
    rerank xs ys (rank xs key) = rank ys key := by
  unfold rerank
  cases hfind : (keysOf xs).find? (rank xs · == rank xs key) with
  | none => exact absurd (beq_self_eq_true _) (List.find?_eq_none.mp hfind key hkey)
  | some found =>
    have hfound : (rank xs found == rank xs key) = true :=
      List.find?_some (p := (rank xs · == rank xs key)) hfind
    rw [← rank_inj hkey (eq_of_beq hfound).symm]

theorem rerank_other {id : Int} (h : ¬ ∃ key ∈ keysOf xs, rank xs key = id) :
    rerank xs ys id = id := by
  have hnone : (keysOf xs).find? (rank xs · == id) = none :=
    List.find?_eq_none.mpr fun key hkey hrank => h ⟨key, hkey, eq_of_beq hrank⟩
  rw [rerank, hnone]

theorem rerank_rerank (h : (keysOf xs).Perm (keysOf ys)) (id : Int) :
    rerank ys xs (rerank xs ys id) = id := by
  by_cases hid : ∃ key ∈ keysOf xs, rank xs key = id
  · obtain ⟨key, hkey, rfl⟩ := hid
    rw [rerank_rank hkey, rerank_rank (h.mem_iff.mp hkey)]
  · have hid' : ¬ ∃ key ∈ keysOf ys, rank ys key = id := by
      rw [rank_range, ← h.length_eq, ← rank_range]
      exact hid
    rw [rerank_other hid, rerank_other hid']

/-- The ids of one list of keys matched with those of another. -/
def matching (h : (keysOf xs).Perm (keysOf ys)) : Equiv.Perm Int where
  toFun := rerank xs ys
  invFun := rerank ys xs
  left_inv := rerank_rerank h
  right_inv := rerank_rerank h.symm

end Renaming

/-! ## Alike but for ids -/

/-- The second store is the first with its ids renamed. -/
structure AlikeUpTo (ρ : Equiv.Perm Int) (s t : Store) : Prop where
  lastId : t.lastId = s.lastId
  byId : t.byId.Perm (s.byId.map fun e => (ρ e.1, e.2.renamed ρ))
  byKey : t.byKey.Perm (s.byKey.map fun e => (e.1, ρ e.2))

/-- Only ids from one number up to another have another name. -/
def RenamesWithin (ρ : Equiv.Perm Int) (low high : Nat) : Prop :=
  ∀ id, ρ id ≠ id → (low : Int) < id ∧ id ≤ high

/-- After a batch and after its shuffled form, stores are alike but for the ids of new rows. -/
theorem Booked.alike {taken xs ys : List Record} {s t : Store} (hs : Booked (taken ++ xs) s)
    (ht : Booked (taken ++ ys) t) (h : SameByProvider xs ys) :
    ∃ ρ, RenamesWithin ρ (keysOf taken).length s.lastId ∧ AlikeUpTo ρ s t := by
  have hall := h.append_left taken
  have hkeys := hall.keys_perm
  have hrank : ∀ key ∈ keysOf (taken ++ xs),
      matching hkeys (rank (taken ++ xs) key) = rank (taken ++ ys) key :=
    fun key hkey => rerank_rank hkey
  have hentry : ∀ key ∈ keysOf (taken ++ xs), entryOf (taken ++ ys) key =
      (matching hkeys (entryOf (taken ++ xs) key).1,
        (entryOf (taken ++ xs) key).2.renamed (matching hkeys)) := by
    intro key hkey
    simp only [entryOf, Record.renamed, Option.map_some, hrank key hkey, hall.occurrences_eq key]
  refine ⟨matching hkeys, fun id hmoved => ?_, ?_, ?_, ?_⟩
  · have hnew : ∃ key ∈ keysOf (taken ++ xs), rank (taken ++ xs) key = id := by
      by_contra hnone
      exact hmoved (rerank_other hnone)
    have hold : ¬ ∃ key ∈ keysOf taken, rank taken key = id := by
      rintro ⟨key, hkey, rfl⟩
      obtain ⟨_, hmem, hid⟩ := hnew
      have hkey' : key ∈ keysOf (taken ++ xs) := by
        obtain ⟨r, hr, hrkey⟩ := mem_keysOf.mp hkey
        exact mem_keysOf.mpr ⟨r, List.mem_append_left _ hr, hrkey⟩
      rw [← rank_append hkey xs, hrank key hkey', rank_append hkey, rank_append hkey] at hmoved
      exact hmoved rfl
    rw [rank_range] at hnew hold
    rw [hs.lastId]
    omega
  · rw [hs.lastId, ht.lastId, hkeys.length_eq]
  · rw [hs.byId_eq, ht.byId_eq, List.map_map]
    exact (hkeys.symm.map _).trans (.of_eq (List.map_congr_left hentry))
  · rw [hs.byKey, ht.byKey, List.map_map]
    refine (hkeys.symm.map _).trans (.of_eq (List.map_congr_left fun key hkey => ?_))
    rw [Function.comp, hrank key hkey]

/-! ## Searches of stores that are alike -/

/-- Two stores that give every request the same number of hits, and on a page that has room for all
of them the same hits up to their ids and to the order of those that tie. -/
def AnswersAlike (ρ : Equiv.Perm Int) (s t : Store) : Prop :=
  ∀ r : Request, (t.search r).2 = (s.search r).2 ∧
    ∀ pageSize, (s.search r).2 ≤ pageSize → pageSize ≤ Number.maxCount →
      let items := (s.search { r with page := 1, pageSize }).1
      let items' := (t.search { r with page := 1, pageSize }).1
      items'.Perm (items.map (Record.renamed ρ)) ∧
        List.Forall₂ (fun a b => compareBy r.sortBy a b = .eq) items items'

namespace AlikeUpTo

variable {ρ : Equiv.Perm Int} {s t : Store}

theorem rows (h : AlikeUpTo ρ s t) : t.rows.Perm (s.rows.map (Record.renamed ρ)) := by
  have hrows := h.byId.map Prod.snd
  rw [List.map_map] at hrows
  rw [Store.rows, Store.rows, List.map_map]
  exact hrows

/-- The hits of one store are those of the other, renamed. -/
theorem hits (h : AlikeUpTo ρ s t) (r : Request) :
    (t.hits r).Perm ((s.hits r).map (Record.renamed ρ)) := by
  have hmatch : isMatch (terms r.query) r.kind ∘ Record.renamed ρ =
      isMatch (terms r.query) r.kind := rfl
  have hmatching := h.rows.filter (isMatch (terms r.query) r.kind)
  rw [List.filter_map, hmatch] at hmatching
  exact ((List.mergeSort_perm _ _).trans hmatching).trans
    ((List.mergeSort_perm _ _).symm.map (Record.renamed ρ))

/-- At every place of the two lists of hits stand rows that tie. -/
theorem hits_tie (h : AlikeUpTo ρ s t) (r : Request) :
    List.Forall₂ (fun a b => compareBy r.sortBy a b = .eq) (s.hits r) (t.hits r) := by
  have hvalues : ((t.hits r).map (sortValue r.sortBy)).Perm
      ((s.hits r).map (sortValue r.sortBy)) := by
    have hvalue : sortValue r.sortBy ∘ Record.renamed ρ = sortValue r.sortBy := rfl
    have hperm := (h.hits r).map (sortValue r.sortBy)
    rw [List.map_map, hvalue] at hperm
    exact hperm
  have hties : List.Forall₂ Eq ((s.hits r).map (sortValue r.sortBy))
      ((t.hits r).map (sortValue r.sortBy)) := by
    rw [List.forall₂_eq_eq_eq]
    exact (hits_values_eq hvalues).symm
  rw [List.forall₂_map_left_iff, List.forall₂_map_right_iff] at hties
  exact hties.imp fun _ _ => compareBy_tie.mpr

theorem answers (h : AlikeUpTo ρ s t) : AnswersAlike ρ s t := by
  intro r
  have htotal : (t.hits r).length = (s.hits r).length := by
    rw [(h.hits r).length_eq, List.length_map]
  refine ⟨htotal, fun pageSize hroom hcount => ?_⟩
  have hitems : ∀ u : Store, (u.hits r).length ≤ pageSize →
      (u.search { r with page := 1, pageSize }).1 = u.hits r := by
    intro u hu
    simp only [Store.search, hits_page, Search.paginate_one_of_le _ hcount]
    exact List.take_of_length_le hu
  intro items items'
  have hs : items = s.hits r := hitems s hroom
  have ht : items' = t.hits r := hitems t (htotal.symm ▸ hroom)
  rw [hs, ht]
  exact ⟨h.hits r, h.hits_tie r⟩

end AlikeUpTo

/-! ## Shuffled batches in a store -/

/-- A batch and its shuffled form are both refused, or leave stores that are alike but for the ids
of new rows. -/
theorem upsert_shuffled {taken xs ys : List Record} {s : Store} (hs : Booked taken s)
    (h : SameByProvider xs ys) :
    (∃ e e', s.upsert xs = .error e ∧ s.upsert ys = .error e') ∨
      ∃ ids ids' t t', s.upsert xs = .ok (ids, t) ∧ s.upsert ys = .ok (ids', t') ∧
        ∃ ρ, RenamesWithin ρ s.lastId t.lastId ∧ AlikeUpTo ρ t t' := by
  have hvalid : (∃ answer, s.upsert xs = .ok answer) ↔ ∃ answer, s.upsert ys = .ok answer := by
    simp only [upsert_ok, h.mem_iff]
  rcases hxs : s.upsert xs with e | ⟨ids, t⟩
  · rcases hys : s.upsert ys with e' | answer
    · exact Or.inl ⟨e, e', rfl, rfl⟩
    · obtain ⟨_, hok⟩ := hvalid.mpr ⟨answer, hys⟩
      rw [hxs] at hok
      cases hok
  · obtain ⟨⟨ids', t'⟩, hys⟩ := hvalid.mp ⟨_, hxs⟩
    obtain ⟨ρ, hids, halike⟩ := (hs.upsert hxs).1.alike (hs.upsert hys).1 h
    rw [← hs.lastId] at hids
    exact Or.inr ⟨ids, ids', t, t', rfl, hys, ρ, hids, halike⟩

end Store

end FeedSearch
