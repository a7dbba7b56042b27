-- What the store holds after any row of batches. Of all that was in accepted
-- batches, in order, one row stands for each natural key: it has its place from
-- the first record of the key, and what may change from the last.
import Mathlib.Data.List.Basic
import Mathlib.Data.List.Induction
import FeedSearch.Store

namespace FeedSearch

namespace Store

/-! ## Keys -/

/-- The natural keys of records, in the order in which they first come. -/
def keysOf (taken : List Record) : List NaturalKey := (taken.map (·.naturalKey)).eraseDups

/-- The place of a key among all keys, counted from 1. -/
def rank (taken : List Record) (key : NaturalKey) : Int := ((keysOf taken).idxOf key + 1 : Nat)

/-- The records of a key. -/
def occurrences (taken : List Record) (key : NaturalKey) : List Record :=
  taken.filter (·.naturalKey == key)

section Keys

variable {taken : List Record} {key : NaturalKey} {r : Record}

theorem mem_keysOf : key ∈ keysOf taken ↔ ∃ r ∈ taken, r.naturalKey = key := by
  unfold keysOf
  rw [List.mem_eraseDups, List.mem_map]

theorem keysOf_append_old (h : r.naturalKey ∈ keysOf taken) :
    keysOf (taken ++ [r]) = keysOf taken := by
  have hnone : [r.naturalKey].removeAll (taken.map (·.naturalKey)) = [] :=
    List.filter_cons_of_neg (by simpa using mem_keysOf.mp h)
  unfold keysOf
  rw [List.map_append, List.eraseDups_append, List.map_singleton, hnone]
  exact List.append_nil _

theorem keysOf_append_new (h : r.naturalKey ∉ keysOf taken) :
    keysOf (taken ++ [r]) = keysOf taken ++ [r.naturalKey] := by
  have hone : [r.naturalKey].removeAll (taken.map (·.naturalKey)) = [r.naturalKey] :=
    List.filter_cons_of_pos (by simpa using fun x hx hkey => h (mem_keysOf.mpr ⟨x, hx, hkey⟩))
  unfold keysOf
  rw [List.map_append, List.eraseDups_append, List.map_singleton, hone]
  rfl

theorem keysOf_nodup (taken : List Record) : (keysOf taken).Nodup := by
  induction taken using List.reverseRecOn with
  | nil => exact List.nodup_nil
  | append_singleton taken r ih =>
    by_cases h : r.naturalKey ∈ keysOf taken
    · rw [keysOf_append_old h]
      exact ih
    · rw [keysOf_append_new h]
      exact List.nodup_append.mpr ⟨ih, by simp, fun a ha b hb heq =>
        h (List.mem_singleton.mp hb ▸ heq ▸ ha)⟩

/-- A key keeps its rank when more records come. -/
theorem rank_append (h : key ∈ keysOf taken) (more : List Record) :
    rank (taken ++ more) key = rank taken key := by
  have hsplit : ∃ new, keysOf (taken ++ more) = keysOf taken ++ new := by
    unfold keysOf
    rw [List.map_append, List.eraseDups_append]
    exact ⟨_, rfl⟩
  obtain ⟨new, hnew⟩ := hsplit
  unfold rank
  rw [hnew, List.idxOf_append_of_mem h]

theorem rank_new (h : r.naturalKey ∉ keysOf taken) :
    rank (taken ++ [r]) r.naturalKey = ((keysOf taken).length + 1 : Nat) := by
  unfold rank
  rw [keysOf_append_new h, List.idxOf_append_of_notMem h, List.idxOf_cons_self, Nat.add_zero]

theorem rank_inj {other : NaturalKey} (h : key ∈ keysOf taken)
    (heq : rank taken key = rank taken other) : key = other := by
  apply (List.idxOf_inj h).mp
  unfold rank at heq
  omega

theorem occurrences_append_self (taken : List Record) (r : Record) :
    occurrences (taken ++ [r]) r.naturalKey = occurrences taken r.naturalKey ++ [r] := by
  simp [occurrences]

theorem occurrences_append_ne (h : r.naturalKey ≠ key) :
    occurrences (taken ++ [r]) key = occurrences taken key := by
  simp [occurrences, h]

theorem occurrences_new (h : key ∉ keysOf taken) : occurrences taken key = [] := by
  unfold occurrences
  rw [List.filter_eq_nil_iff]
  intro r hr hkey
  exact h (mem_keysOf.mpr ⟨r, hr, eq_of_beq hkey⟩)

end Keys

/-! ## The invariant -/

/-- A row that is as it should be, with its id. -/
def Stands (taken : List Record) (e : Int × Record) : Prop :=
  ∃ first last, (occurrences taken e.2.naturalKey).head? = some first ∧
    (occurrences taken e.2.naturalKey).getLast? = some last ∧
    e.1 = rank taken e.2.naturalKey ∧
    e.2 = { last with
      id := some e.1
      providerId := first.providerId
      provider := first.provider
      createdAt := first.createdAt }

/-- All records taken so far are in the store. -/
structure Booked (taken : List Record) (s : Store) : Prop where
  lastId : s.lastId = (keysOf taken).length
  byKey : s.byKey = (keysOf taken).map fun key => (key, rank taken key)
  keys : s.rows.map (·.naturalKey) = keysOf taken
  rows : ∀ e ∈ s.byId, Stands taken e

namespace Booked

variable {taken : List Record} {s : Store}

theorem empty : Booked [] .empty := ⟨rfl, rfl, rfl, nofun⟩

theorem mem_keys (h : Booked taken s) {e : Int × Record} (he : e ∈ s.byId) :
    e.2.naturalKey ∈ keysOf taken := by
  rw [← h.keys]
  exact List.mem_map_of_mem (List.mem_map_of_mem he)

theorem lookup_old (h : Booked taken s) {key : NaturalKey} (hkey : key ∈ keysOf taken) :
    s.byKey.lookup key = some (rank taken key) := by
  rw [h.byKey, List.lookup_graph _ hkey]

theorem lookup_new (h : Booked taken s) {key : NaturalKey} (hkey : key ∉ keysOf taken) :
    s.byKey.lookup key = none := by
  rw [h.byKey, List.lookup_eq_none_iff]
  intro p hp
  obtain ⟨other, hother, rfl⟩ := List.mem_map.mp hp
  exact bne_iff_ne.mpr fun heq => hkey (heq ▸ hother)

/-! ## One record -/

/-- A row of another key stands as before. -/
theorem stands_other (h : Booked taken s) {e : Int × Record} (he : e ∈ s.byId) {r : Record}
    (hne : r.naturalKey ≠ e.2.naturalKey) : Stands (taken ++ [r]) e := by
  obtain ⟨first, last, hfirst, hlast, hid, hrow⟩ := h.rows e he
  refine ⟨first, last, ?_, ?_, ?_, hrow⟩
  · rw [occurrences_append_ne hne]
    exact hfirst
  · rw [occurrences_append_ne hne]
    exact hlast
  · rw [rank_append (h.mem_keys he)]
    exact hid

/-- The row of the record's key changes, and keeps what its first record gave it. -/
theorem stands_revised (h : Booked taken s) {e : Int × Record} (he : e ∈ s.byId) {r : Record}
    (heq : r.naturalKey = e.2.naturalKey) : Stands (taken ++ [r]) (e.1, revise e.2 r) := by
  obtain ⟨first, last, hfirst, _, hid, hrow⟩ := h.rows e he
  have hkey : (revise e.2 r).naturalKey = r.naturalKey := heq.symm
  refine ⟨first, r, ?_, ?_, ?_, ?_⟩
  · rw [hkey, occurrences_append_self, List.head?_append, heq, hfirst]
    rfl
  · rw [hkey, occurrences_append_self, List.getLast?_concat]
  · rw [hkey, heq, rank_append (h.mem_keys he)]
    exact hid
  · show revise e.2 r = _
    rw [hrow]
    rfl

theorem update (h : Booked taken s) {r : Record} (hold : r.naturalKey ∈ keysOf taken) :
    Booked (taken ++ [r]) (s.upsertOne r).2 := by
  unfold upsertOne
  rw [h.lookup_old hold]
  -- An entry has the id of the record's key exactly if its row has that key.
  have hsame : ∀ e ∈ s.byId, e.1 = rank taken r.naturalKey ↔ r.naturalKey = e.2.naturalKey := by
    intro e he
    obtain ⟨_, _, _, _, hid, _⟩ := h.rows e he
    rw [hid]
    exact ⟨fun hrank => rank_inj hold hrank.symm, fun hkey => by rw [hkey]⟩
  refine ⟨?_, ?_, ?_, ?_⟩
  · rw [keysOf_append_old hold]
    exact h.lastId
  · rw [keysOf_append_old hold]
    refine h.byKey.trans (List.map_congr_left fun key hkey => ?_)
    rw [rank_append hkey]
  · rw [keysOf_append_old hold, ← h.keys]
    simp only [Store.rows, List.map_map]
    refine List.map_congr_left fun e _ => ?_
    simp only [Function.comp]
    split <;> rfl
  · intro e' he'
    obtain ⟨e, he, rfl⟩ := List.mem_map.mp he'
    by_cases hid : e.1 = rank taken r.naturalKey
    · rw [if_pos (beq_iff_eq.mpr hid)]
      exact h.stands_revised he ((hsame e he).mp hid)
    · rw [if_neg (by simpa using hid)]
      exact h.stands_other he fun hkey => hid ((hsame e he).mpr hkey)

theorem insert (h : Booked taken s) {r : Record} (hnew : r.naturalKey ∉ keysOf taken) :
    Booked (taken ++ [r]) (s.upsertOne r).2 := by
  unfold upsertOne
  rw [h.lookup_new hnew]
  have hrank : rank (taken ++ [r]) r.naturalKey = (s.lastId + 1 : Nat) := by
    rw [rank_new hnew, h.lastId]
  refine ⟨?_, ?_, ?_, ?_⟩
  · rw [keysOf_append_new hnew, List.length_append, ← h.lastId]
    rfl
  · rw [keysOf_append_new hnew, List.map_append, h.byKey]
    refine congrArg₂ (· ++ ·) (List.map_congr_left fun key hkey => ?_) ?_
    · rw [rank_append hkey]
    · rw [List.map_singleton, hrank]
  · rw [keysOf_append_new hnew, ← h.keys]
    simp [Store.rows, Record.naturalKey]
  · intro e he
    rcases List.mem_append.mp he with he | he
    · exact h.stands_other he fun hkey => hnew (hkey ▸ h.mem_keys he)
    · rw [List.mem_singleton.mp he]
      have honly : occurrences (taken ++ [r]) r.naturalKey = [r] := by
        rw [occurrences_append_self, occurrences_new hnew, List.nil_append]
      exact ⟨r, r, congrArg List.head? honly, congrArg List.getLast? honly, hrank.symm, rfl⟩

theorem upsertOne (h : Booked taken s) (r : Record) :
    Booked (taken ++ [r]) (s.upsertOne r).2 := by
  by_cases hold : r.naturalKey ∈ keysOf taken
  · exact h.update hold
  · exact h.insert hold

theorem upsertOne_id (h : Booked taken s) (r : Record) :
    (s.upsertOne r).1 = rank (taken ++ [r]) r.naturalKey := by
  unfold Store.upsertOne
  by_cases hold : r.naturalKey ∈ keysOf taken
  · rw [h.lookup_old hold, rank_append hold]
  · rw [h.lookup_new hold, rank_new hold, h.lastId]

/-! ## One batch -/

theorem upsertAll (h : Booked taken s) (batch : List Record) :
    Booked (taken ++ batch) (s.upsertAll batch).2 := by
  induction batch generalizing taken s with
  | nil => simpa [Store.upsertAll] using h
  | cons r rest ih =>
    have hrest := ih (h.upsertOne r)
    rw [List.append_assoc] at hrest
    exact hrest

theorem upsertAll_ids (h : Booked taken s) (batch : List Record) :
    (s.upsertAll batch).1 = batch.map fun r => rank (taken ++ batch) r.naturalKey := by
  induction batch generalizing taken s with
  | nil => rfl
  | cons r rest ih =>
    have hsplit : taken ++ r :: rest = (taken ++ [r]) ++ rest := by simp
    have hmem : r.naturalKey ∈ keysOf (taken ++ [r]) := mem_keysOf.mpr ⟨r, by simp, rfl⟩
    rw [hsplit, List.map_cons, rank_append hmem, ← h.upsertOne_id r, ← ih (h.upsertOne r)]
    rfl

theorem upsert (h : Booked taken s) {batch : List Record} {ids : List Int} {s' : Store}
    (hu : s.upsert batch = .ok (ids, s')) :
    Booked (taken ++ batch) s' ∧ ids = batch.map fun r => rank (taken ++ batch) r.naturalKey := by
  unfold Store.upsert at hu
  split at hu
  · cases hu
  · have hall := h.upsertAll batch
    have hids := h.upsertAll_ids batch
    rw [Except.ok.inj hu] at hall hids
    exact ⟨hall, hids⟩

end Booked

/-! ## Many batches -/

/-- A batch and what the store answered. -/
structure BatchCall where
  batch : List Record
  answer : Except StoreError (List Int)
  deriving DecidableEq

/-- Writes batches one after another. One that is refused changes nothing. -/
def takeBatches (s : Store) : List (List Record) → List BatchCall × Store
  | [] => ([], s)
  | batch :: rest =>
    match s.upsert batch with
    | .error e =>
      let (calls, s) := s.takeBatches rest
      (⟨batch, .error e⟩ :: calls, s)
    | .ok (ids, s) =>
      let (calls, s) := s.takeBatches rest
      (⟨batch, .ok ids⟩ :: calls, s)

/-- The records of a batch, unless it was refused. -/
def BatchCall.taken (call : BatchCall) : List Record :=
  match call.answer with
  | .error _ => []
  | .ok _ => call.batch

/-- All records of accepted batches, in order. -/
def accepted (calls : List BatchCall) : List Record := calls.flatMap BatchCall.taken

theorem validateFrom_ok (index : Nat) (batch : List Record) :
    validateFrom index batch = .ok () ↔ ∀ r ∈ batch, fault? r = none := by
  induction batch generalizing index with
  | nil => simp [validateFrom]
  | cons r rest ih =>
    cases hf : fault? r with
    | some f => simp [validateFrom, hf]
    | none => simp [validateFrom, hf, ih]

theorem upsert_ok (s : Store) (batch : List Record) :
    (∃ answer, s.upsert batch = .ok answer) ↔ ∀ r ∈ batch, fault? r = none := by
  rw [← validateFrom_ok 0 batch]
  unfold upsert validate
  cases validateFrom 0 batch with
  | error e => simp
  | ok u => simp

theorem takeBatches_batches (s : Store) (batches : List (List Record)) :
    (s.takeBatches batches).1.map (·.batch) = batches := by
  induction batches generalizing s with
  | nil => rfl
  | cons batch rest ih =>
    unfold takeBatches
    split
    · exact congrArg (batch :: ·) (ih s)
    · exact congrArg (batch :: ·) (ih _)

/-- A batch is accepted exactly if it has no record with a fault. -/
theorem takeBatches_accepts (s : Store) (batches : List (List Record)) :
    ∀ call ∈ (s.takeBatches batches).1,
      (∃ ids, call.answer = .ok ids) ↔ ∀ r ∈ call.batch, fault? r = none := by
  induction batches generalizing s with
  | nil => exact nofun
  | cons batch rest ih =>
    intro call hcall
    unfold takeBatches at hcall
    split at hcall
    · rename_i e hu
      rcases List.mem_cons.mp hcall with rfl | hcall
      · rw [← upsert_ok s batch, hu]
        simp
      · exact ih s call hcall
    · rename_i ids s' hu
      rcases List.mem_cons.mp hcall with rfl | hcall
      · rw [← upsert_ok s batch, hu]
        simp
      · exact ih s' call hcall

theorem Booked.takeBatches {taken : List Record} {s : Store} (h : Booked taken s)
    (batches : List (List Record)) :
    Booked (taken ++ accepted (s.takeBatches batches).1) (s.takeBatches batches).2 ∧
      ∀ call ∈ (s.takeBatches batches).1, ∀ ids, call.answer = .ok ids →
        ids = call.batch.map fun r =>
          rank (taken ++ accepted (s.takeBatches batches).1) r.naturalKey := by
  induction batches generalizing taken s with
  | nil => exact ⟨by simpa [Store.takeBatches, accepted] using h, nofun⟩
  | cons batch rest ih =>
    unfold Store.takeBatches
    split
    · obtain ⟨hrest, hcalls⟩ := ih h
      refine ⟨hrest, fun call hcall ids hids => ?_⟩
      rcases List.mem_cons.mp hcall with rfl | hcall
      · cases hids
      · exact hcalls call hcall ids hids
    · rename_i ids s' hu
      obtain ⟨hbatch, hids⟩ := h.upsert hu
      obtain ⟨hrest, hcalls⟩ := ih hbatch
      simp only [accepted, List.flatMap_cons, BatchCall.taken, ← List.append_assoc]
      refine ⟨hrest, fun call hcall ids' hids' => ?_⟩
      rcases List.mem_cons.mp hcall with rfl | hcall
      · cases hids'
        rw [hids]
        refine List.map_congr_left fun r hr => (rank_append ?_ _).symm
        exact mem_keysOf.mpr ⟨r, List.mem_append_right _ hr, rfl⟩
      · exact hcalls call hcall ids' hids'

/-! ## The law -/

/-- After any batches, one row stands for each natural key that was in an accepted batch. Its id is
the rank of the key, its provider, its name there and its time of creation are those of the first
record of the key, and all else is that of the last. Each accepted call gives the ids of the rows of
its records, in order. -/
theorem the_store_holds_one_row_for_each_key (batches : List (List Record)) :
    let run := takeBatches .empty batches
    let taken := accepted run.1
    run.1.map (·.batch) = batches ∧
    (∀ call ∈ run.1, (∃ ids, call.answer = .ok ids) ↔ ∀ r ∈ call.batch, fault? r = none) ∧
    (run.2.rows.map (·.naturalKey)).Nodup ∧
    (∀ key, key ∈ run.2.rows.map (·.naturalKey) ↔ ∃ r ∈ taken, r.naturalKey = key) ∧
    (∀ e ∈ run.2.byId, Stands taken e) ∧
    ∀ call ∈ run.1, ∀ ids, call.answer = .ok ids →
      ids = call.batch.map fun r => rank taken r.naturalKey := by
  intro run taken
  obtain ⟨hbooked, hids⟩ := Booked.empty.takeBatches batches
  rw [List.nil_append] at hbooked hids
  refine ⟨takeBatches_batches _ _, takeBatches_accepts _ _, ?_, ?_, hbooked.rows, hids⟩
  · rw [hbooked.keys]
    exact keysOf_nodup _
  · intro key
    rw [hbooked.keys, mem_keysOf]

/-- A key comes twice in the first batch and once more in the third. The second batch is refused for
its second record, so its first record is not known yet when the third batch brings it again. -/
theorem a_refused_batch_gives_no_id :
    let a := Record.unseen "p" "a" "one"
    let again := { a with title := "two", createdAt := ⟨7, 0⟩ }
    let atLast := { a with title := "three", views := 9, createdAt := ⟨8, 0⟩ }
    let b := Record.unseen "p" "b" "other"
    let c := Record.unseen "p" "c" "new"
    let nameless := Record.unseen "" "d" "nobody's"
    let run := takeBatches .empty [[a, b, again], [c, nameless], [c, atLast]]
    (∃ call ∈ run.1, call.batch = [c, nameless] ∧ ¬∃ ids, call.answer = .ok ids) ∧
    (∃ call ∈ run.1, call.batch = [c, atLast] ∧ call.answer = .ok [3, 1]) ∧
    (1, { atLast with id := some 1, createdAt := a.createdAt }) ∈ run.2.byId := by
  intro a again atLast b c nameless run
  obtain ⟨hbatches, haccepts, _, hkeys, hrows, hids⟩ :=
    the_store_holds_one_row_for_each_key [[a, b, again], [c, nameless], [c, atLast]]
  have htaken : accepted run.1 = [a, b, again, c, atLast] := by decide +kernel
  refine ⟨?_, ?_, ?_⟩
  · have hmem : [c, nameless] ∈ run.1.map (·.batch) := by rw [hbatches]; simp
    obtain ⟨call, hcall, hbatch⟩ := List.mem_map.mp hmem
    refine ⟨call, hcall, hbatch, fun hok => ?_⟩
    have hnone := (haccepts call hcall).mp hok nameless (by simp [hbatch])
    exact absurd hnone (by decide +kernel)
  · have hmem : [c, atLast] ∈ run.1.map (·.batch) := by rw [hbatches]; simp
    obtain ⟨call, hcall, hbatch⟩ := List.mem_map.mp hmem
    obtain ⟨ids, hanswer⟩ := (haccepts call hcall).mpr (by rw [hbatch]; decide +kernel)
    have hranks := hids call hcall ids hanswer
    rw [htaken, hbatch] at hranks
    rw [hranks] at hanswer
    exact ⟨call, hcall, hbatch, hanswer.trans (by decide +kernel)⟩
  · have hkey := (hkeys a.naturalKey).mpr ⟨a, by rw [htaken]; simp, rfl⟩
    obtain ⟨row, hrow, hkey⟩ := List.mem_map.mp hkey
    obtain ⟨e, he, rfl⟩ := List.mem_map.mp hrow
    obtain ⟨first, last, hfirst, hlast, hid, hstands⟩ := hrows e he
    rw [htaken, hkey] at hfirst hlast hid
    obtain rfl : a = first := Option.some.inj hfirst
    obtain rfl : atLast = last := Option.some.inj hlast
    have hone : e.1 = 1 := hid
    rw [hone] at hstands
    obtain rfl : e = (1, _) := Prod.ext hone hstands
    exact he

end Store

end FeedSearch
