-- The two indexes of the store. Rows are found by their ids, and ids by natural keys,
-- and a write looks into both. After any batches, and in the middle of one, the two
-- agree: no known key is without its row, so no record of a known key is lost.
import FeedSearch.Proofs.CutBatches
import FeedSearch.Proofs.LastingIds

namespace FeedSearch.Store

variable {taken : List Record} {s : Store} {key : NaturalKey} {r row : Record} {id : Int}

/-! ## Rows by id -/

/-- A key that has come has a first record and a last one. -/
theorem exists_first_last (hkey : key ∈ keysOf taken) :
    ∃ first last, (occurrences taken key).head? = some first ∧
      (occurrences taken key).getLast? = some last ∧ first ∈ taken ∧ last ∈ taken := by
  obtain ⟨x, hx, hxkey⟩ := mem_keysOf.mp hkey
  have hmem : x ∈ occurrences taken key := List.mem_filter.mpr ⟨hx, beq_iff_eq.mpr hxkey⟩
  have hne : occurrences taken key ≠ [] := List.ne_nil_of_mem hmem
  refine ⟨_, _, List.head?_eq_some_head hne, List.getLast?_eq_some_getLast hne, ?_, ?_⟩
  · exact (List.mem_filter.mp (List.head_mem hne)).1
  · exact (List.mem_filter.mp (List.getLast_mem hne)).1

theorem entryOf_naturalKey (hkey : key ∈ keysOf taken) :
    (entryOf taken key).2.naturalKey = key := by
  obtain ⟨first, _, hfirst, _⟩ := exists_first_last hkey
  rw [(entryOf_first hfirst).1]
  exact (naturalKey_of_first hfirst).2

/-- A row has its key from one fit record and its score from another. -/
theorem entryOf_fit (hfit : ∀ r ∈ taken, Fit r) (hkey : key ∈ keysOf taken) :
    Fit (entryOf taken key).2 := by
  obtain ⟨first, last, hfirst, hlast, hfirstMem, hlastMem⟩ := exists_first_last hkey
  obtain ⟨hprovider, hproviderId, _⟩ := hfit first hfirstMem
  obtain ⟨_, _, hscore⟩ := hfit last hlastMem
  unfold entryOf
  rw [hfirst, hlast]
  exact ⟨hprovider, hproviderId, hscore⟩

/-- The row of a known key, after one more record of the key. -/
theorem entryOf_revised (hkey : r.naturalKey ∈ keysOf taken) :
    (entryOf (taken ++ [r]) r.naturalKey).2 = revise (entryOf taken r.naturalKey).2 r := by
  obtain ⟨first, last, hfirst, hlast, _⟩ := exists_first_last hkey
  unfold entryOf
  rw [rank_append hkey, occurrences_append_self, List.head?_append, List.getLast?_concat, hfirst]
  rfl

namespace Booked

theorem get_iff (h : Booked taken s) :
    s.get id = .ok row ↔
      ∃ key ∈ keysOf taken, rank taken key = id ∧ (entryOf taken key).2 = row := by
  constructor
  · intro hget
    unfold get at hget
    split at hget
    · rename_i found hlookup
      cases hget
      obtain ⟨before, after, hsplit, _⟩ := List.lookup_eq_some_iff.mp hlookup
      have hmem : (id, row) ∈ s.byId := hsplit ▸ List.mem_append_right _ (.head _)
      rw [h.byId_eq] at hmem
      obtain ⟨key, hkey, hentry⟩ := List.mem_map.mp hmem
      exact ⟨key, hkey, congrArg Prod.fst hentry, congrArg Prod.snd hentry⟩
    · cases hget
  · rintro ⟨key, hkey, rfl, rfl⟩
    exact h.get_rank hkey

/-- The ids are numbered without a gap, in ascending order. -/
theorem ids (h : Booked taken s) :
    s.byId.map (·.1) = (List.range s.lastId).map fun n => ((n + 1 : Nat) : Int) := by
  have hlength : s.byId.length = s.lastId := by rw [h.byId_eq, List.length_map, h.lastId]
  apply List.ext_getElem
  · simp [hlength]
  · intro n hn _
    have hplace : n < (keysOf taken).length := by
      rw [← h.lastId, ← hlength]
      simpa using hn
    have hrank : rank taken (keysOf taken)[n] = ((n + 1 : Nat) : Int) := by
      rw [rank, (keysOf_nodup taken).idxOf_getElem _ hplace]
    simpa [h.byId_eq, entryOf] using hrank

/-- A key has the id of its row, and no other key has. -/
theorem lookup_iff (h : Booked taken s) :
    s.byKey.lookup key = some id ↔ ∃ row, s.get id = .ok row ∧ row.naturalKey = key := by
  constructor
  · intro hlookup
    by_cases hkey : key ∈ keysOf taken
    · rw [h.lookup_old hkey] at hlookup
      obtain rfl := Option.some.inj hlookup
      exact ⟨_, h.get_rank hkey, entryOf_naturalKey hkey⟩
    · rw [h.lookup_new hkey] at hlookup
      cases hlookup
  · rintro ⟨row, hget, rfl⟩
    obtain ⟨key, hkey, rfl, rfl⟩ := h.get_iff.mp hget
    rw [entryOf_naturalKey hkey]
    exact h.lookup_old hkey

end Booked

/-! ## Indexes that agree -/

/-- The ids of the rows are the numbers up to the last one given, every row holds its own id and is
fit, and the keys of the rows are indexed once each, by the ids of their rows. -/
structure Indexed (s : Store) : Prop where
  ids : s.byId.map (·.1) = (List.range s.lastId).map fun n => ((n + 1 : Nat) : Int)
  rows : ∀ id row, s.get id = .ok row → row.id = some id ∧ Fit row
  keys : (s.byKey.map (·.1)).Nodup
  byKey : ∀ key id, s.byKey.lookup key = some id ↔ ∃ row, s.get id = .ok row ∧ row.naturalKey = key

/-- A store that has taken fit records alone. -/
theorem Booked.indexed (h : Booked taken s) (hfit : ∀ r ∈ taken, Fit r) : s.Indexed where
  ids := h.ids
  rows := by
    intro id row hget
    obtain ⟨key, hkey, rfl, rfl⟩ := h.get_iff.mp hget
    exact ⟨rfl, entryOf_fit hfit hkey⟩
  keys := by
    have hkeys : s.byKey.map (·.1) = keysOf taken := by
      rw [h.byKey, List.map_map]
      exact List.map_id _
    rw [hkeys]
    exact keysOf_nodup taken
  byKey _ _ := h.lookup_iff

/-- A record of a known key finds the row of the key, and is written to it. -/
theorem Booked.upsertOne_known (h : Booked taken s)
    (hlookup : s.byKey.lookup r.naturalKey = some id) :
    ∃ row, s.get id = .ok row ∧ row.naturalKey = r.naturalKey ∧ (s.upsertOne r).1 = id ∧
      (s.upsertOne r).2.get id = .ok (revise row r) := by
  by_cases hkey : r.naturalKey ∈ keysOf taken
  · rw [h.lookup_old hkey] at hlookup
    obtain rfl := Option.some.inj hlookup
    have hmem : r.naturalKey ∈ keysOf (taken ++ [r]) :=
      mem_keysOf.mpr ⟨r, List.mem_append_right _ (List.mem_singleton_self r), rfl⟩
    have hwritten := (h.upsertOne r).get_rank hmem
    rw [rank_append hkey, entryOf_revised hkey] at hwritten
    refine ⟨_, h.get_rank hkey, entryOf_naturalKey hkey, ?_, hwritten⟩
    rw [h.upsertOne_id r, rank_append hkey]
  · rw [h.lookup_new hkey] at hlookup
    cases hlookup

/-- Only fit records are ever taken. -/
theorem accepted_fit (s : Store) (batches : List (List Record)) :
    ∀ r ∈ accepted (s.takeBatches batches).1, Fit r := by
  intro r hr
  obtain ⟨call, hcall, hmem⟩ := List.mem_flatMap.mp hr
  unfold BatchCall.taken at hmem
  split at hmem
  · cases hmem
  · rename_i ids hok
    have hnone := (takeBatches_accepts s batches call hcall).mp ⟨ids, hok⟩
    exact fault?_eq_none_iff.mp (hnone r hmem)

/-! ## The law -/

/-- After any batches, and after any part of a batch that is fit to be taken, the two indexes agree.
So whenever a record of a known key is written, the row of the key is there, has that key, and is
revised: no write of a known key goes astray. -/
theorem the_indexes_of_the_store_agree (batches : List (List Record)) :
    let s := (takeBatches .empty batches).2
    s.Indexed ∧
    ∀ front : List Record, (∀ r ∈ front, Fit r) →
      let middle := (s.upsertAll front).2
      middle.Indexed ∧
      ∀ r id, middle.byKey.lookup r.naturalKey = some id →
        ∃ row, middle.get id = .ok row ∧ row.naturalKey = r.naturalKey ∧
          (middle.upsertOne r).1 = id ∧ (middle.upsertOne r).2.get id = .ok (revise row r) := by
  intro s
  have hbooked : Booked (accepted (takeBatches .empty batches).1) s :=
    (Booked.empty.takeBatches batches).1
  have hfit := accepted_fit .empty batches
  refine ⟨hbooked.indexed hfit, fun front hfront => ?_⟩
  have hmiddle := hbooked.upsertAll front
  refine ⟨hmiddle.indexed (List.forall_mem_append.mpr ⟨hfit, hfront⟩), fun r id hlookup => ?_⟩
  exact hmiddle.upsertOne_known hlookup

/-- A batch brings a new post and then the post again. The second record finds the row that the
first one has just made. -/
theorem a_batch_finds_the_rows_it_has_made :
    let old := Record.unseen "posts" "1" "old"
    let draft := Record.unseen "posts" "2" "draft"
    let text := { draft with title := "text", views := 7 }
    let middle := ((takeBatches .empty [[old]]).2.upsertAll [draft]).2
    middle.byKey.lookup text.naturalKey = some 2 ∧
      ∃ row, middle.get 2 = .ok row ∧ row.id = some 2 ∧ row.title = "draft" ∧
        (middle.upsertOne text).2.get 2 = .ok (revise row text) := by
  intro old draft text middle
  obtain ⟨_, hparts⟩ := the_indexes_of_the_store_agree [[old]]
  obtain ⟨hindexed, hfound⟩ := hparts [draft] (by decide +kernel)
  have hlookup : middle.byKey.lookup text.naturalKey = some 2 := by decide +kernel
  obtain ⟨row, hget, _, _, hrevised⟩ := hfound text 2 hlookup
  obtain ⟨hid, _⟩ := hindexed.rows 2 row hget
  have htitle : (middle.get 2).map (·.title) = .ok "draft" := by decide +kernel
  rw [hget] at htitle
  exact ⟨hlookup, row, hget, hid, Except.ok.inj htitle, hrevised⟩

end FeedSearch.Store
