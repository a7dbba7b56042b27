-- Ids last. A search shows copies of rows, some of them from a cache that was
-- filled long ago. Whatever has been fetched and written since, the id of a copy
-- still leads to the row of its key.
import FeedSearch.Proofs.ConcurrentSearches
import FeedSearch.Proofs.RenamedStores
import FeedSearch.Proofs.WantedRows

namespace FeedSearch

namespace Store

/-! ## Copies of rows -/

section Copies

variable {taken more : List Record} {s : Store} {copy other : Record}

/-- A record has the id of its key, and the time of creation with which its key came first. -/
def Placed (taken : List Record) (copy : Record) : Prop :=
  ∃ first, (occurrences taken copy.naturalKey).head? = some first ∧
    copy.id = some (rank taken copy.naturalKey) ∧ copy.createdAt = first.createdAt

/-- The first record of a key is of that key. -/
theorem naturalKey_of_first {key : NaturalKey} {first : Record}
    (h : (occurrences taken key).head? = some first) :
    first ∈ taken ∧ first.naturalKey = key := by
  obtain ⟨hmem, hkey⟩ := List.mem_filter.mp (List.mem_of_head? h)
  exact ⟨hmem, eq_of_beq hkey⟩

theorem Placed.mem_keysOf (h : Placed taken copy) : copy.naturalKey ∈ keysOf taken := by
  obtain ⟨first, hfirst, _⟩ := h
  exact Store.mem_keysOf.mpr ⟨first, naturalKey_of_first hfirst⟩

theorem Stands.placed {e : Int × Record} (h : Stands taken e) : Placed taken e.2 := by
  obtain ⟨first, last, hfirst, _, hid, hrow⟩ := h
  refine ⟨first, hfirst, ?_, ?_⟩
  · rw [← hid, hrow]
  · rw [hrow]

/-- More records take nothing from a copy. -/
theorem Placed.append (h : Placed taken copy) (more : List Record) :
    Placed (taken ++ more) copy := by
  have hkey := h.mem_keysOf
  obtain ⟨first, hfirst, hid, hcreated⟩ := h
  refine ⟨first, ?_, ?_, hcreated⟩
  · unfold occurrences at hfirst ⊢
    rw [List.filter_append, List.head?_append, hfirst]
    rfl
  · rw [rank_append hkey]
    exact hid

/-- Copies of one id are copies of one key. -/
theorem Placed.id_eq_iff (h : Placed taken copy) (h' : Placed taken other) :
    copy.id = other.id ↔ copy.naturalKey = other.naturalKey := by
  have hkey := h.mem_keysOf
  obtain ⟨_, _, hid, _⟩ := h
  obtain ⟨_, _, hid', _⟩ := h'
  rw [hid, hid', Option.some.injEq]
  constructor
  · exact rank_inj hkey
  · intro heq
    rw [heq]

/-- A row has its key and its time of creation from the first record of the key. -/
theorem entryOf_first {key : NaturalKey} {first : Record}
    (h : (occurrences taken key).head? = some first) :
    (entryOf taken key).2.naturalKey = first.naturalKey ∧
      (entryOf taken key).2.createdAt = first.createdAt := by
  unfold entryOf
  rw [h]
  exact ⟨rfl, rfl⟩

/-- The id of a key leads to the row of the key. -/
theorem Booked.get_rank (h : Booked taken s) {key : NaturalKey} (hkey : key ∈ keysOf taken) :
    s.get (rank taken key) = .ok (entryOf taken key).2 := by
  have hlookup : s.byId.lookup (rank taken key) = some (entryOf taken key).2 := by
    obtain ⟨before, after, hkeys, hnew⟩ := List.eq_append_cons_of_mem hkey
    rw [h.byId_eq, List.lookup_eq_some_iff]
    refine ⟨before.map (entryOf taken), after.map (entryOf taken), ?_, ?_⟩
    · rw [hkeys, List.map_append, List.map_cons]
      rfl
    · intro p hp
      obtain ⟨earlier, hearlier, rfl⟩ := List.mem_map.mp hp
      have hne : rank taken key ≠ rank taken earlier := by
        intro heq
        rw [rank_inj hkey heq] at hnew
        exact hnew hearlier
      exact bne_iff_ne.mpr hne
  unfold get
  rw [hlookup]

/-- The row of a copy, which has its key and its time of creation. -/
theorem Placed.row (h : Placed taken copy) (hs : Booked taken s) :
    ∃ id row, copy.id = some id ∧ 1 ≤ id ∧ s.get id = .ok row ∧
      row.naturalKey = copy.naturalKey ∧ row.createdAt = copy.createdAt := by
  have hkey := h.mem_keysOf
  obtain ⟨first, hfirst, hid, hcreated⟩ := h
  refine ⟨_, _, hid, ?_, hs.get_rank hkey, ?_, ?_⟩
  · unfold rank
    omega
  · rw [(entryOf_first hfirst).1]
    exact (naturalKey_of_first hfirst).2
  · rw [(entryOf_first hfirst).2]
    exact hcreated.symm

theorem Booked.placed (h : Booked taken s) {row : Record} (hrow : row ∈ s.rows) :
    Placed taken row := by
  obtain ⟨e, he, rfl⟩ := List.mem_map.mp hrow
  exact (h.rows e he).placed

end Copies

end Store

namespace Search

open Fetch

theorem mem_of_mem_paginate {α : Type} {all : List α} {page pageSize : Nat} {a : α}
    (h : a ∈ paginate all page pageSize) : a ∈ all := by
  unfold paginate at h
  exact List.mem_of_mem_drop (List.mem_of_mem_take h)

/-! ## A store that stays in reach -/

namespace StoreLink

theorem search_isOut (l : StoreLink) (r : Request) : (l.search r).2.isOut = l.isOut := by
  have hcall : (l.call .search).2.isOut = l.isOut := rfl
  unfold search
  split
  · rename_i h
    rw [← hcall, h]
  · rename_i h
    rw [← hcall, h]

theorem upsert_isOut (l : StoreLink) (batch : List Record) :
    (l.upsert batch).2.isOut = l.isOut := by
  have hcall : (l.call .upsert).2.isOut = l.isOut := rfl
  unfold upsert
  split
  · rename_i h
    rw [← hcall, h]
  · rename_i h
    split
    · rw [← hcall, h]
    · rw [← hcall, h]

theorem InReach.get {l : StoreLink} (h : l.InReach) (id : Int) :
    (l.get id).1 = l.store.get id := by
  obtain ⟨l', hcall, hstore, _⟩ := h.call .get
  simp only [StoreLink.get, hcall, hstore]

end StoreLink

namespace Coordinator

theorem step_isOut (c : Coordinator) (cancel : Cancel) (s : Stage) :
    (c.step cancel s).2.store.isOut = c.store.isOut := by
  cases s with
  | lookup r =>
    rcases stepLookup_cases c r with ⟨_, _, _, _, he⟩ | ⟨_, _, _, _, he⟩
    · simp only [step, he]
    · simp only [step, he]
  | fetching r =>
    obtain ⟨_, _, _, he, _⟩ := stepFetch_cases c cancel r
    simp only [step, he]
  | upserting r batch =>
    have hout := c.store.upsert_isOut batch
    rcases hu : c.store.upsert batch with ⟨answer, store⟩
    rw [hu] at hout
    cases answer <;> simpa only [step, stepUpsert, hu] using hout
  | reading r =>
    have hout := c.store.search_isOut r
    rcases hu : c.store.search r with ⟨answer, store⟩
    rw [hu] at hout
    cases answer with
    | error e => simpa only [step, stepRead, hu] using hout
    | ok found =>
      simp only [step, stepRead, hu]
      split
      · exact hout
      · exact hout
  | completing r items total =>
    have hout := c.store.search_isOut { r with page := 1, pageSize := total }
    rcases hu : c.store.search { r with page := 1, pageSize := total } with ⟨answer, store⟩
    rw [hu] at hout
    cases answer <;> simpa only [step, stepComplete, hu, writeFailed] using hout
  | caching r items total all =>
    obtain ⟨_, _, ⟨_, he⟩ | ⟨_, he | he⟩⟩ := stepCache_cases c r items total all
    · simp only [step, he]
    · simp only [step, he, writeFailed]
    · simp only [step, he]
  | finished outcome => rfl

theorem run_isOut (c : Coordinator) (cancel : Cancel) (s : Stage) (n : Nat) :
    (c.run cancel s n).2.store.isOut = c.store.isOut := by
  induction n generalizing c s with
  | zero => rfl
  | succ n ih =>
    rw [run_succ, ih]
    exact c.step_isOut cancel s

theorem turn_isOut (c : Coordinator) (result : Result) (s : Stage) :
    (c.turn result s).2.store.isOut = c.store.isOut := by
  unfold turn
  split
  · rename_i r
    obtain ⟨_, _, he, _⟩ := afterFetch_cases c r result
    rw [he]
  · exact c.step_isOut .never _

end Coordinator

/-! ## What a search holds -/

/-- The records that a search has read and still holds, or shows at its end. -/
def Stage.held : Stage → List Record
  | .completing _ items _ => items
  | .caching _ items _ all => items ++ all
  | .finished (.found response _) => response.items
  | _ => []

namespace Coordinator

open Store

section Stages

variable {taken : List Record} {c c' : Coordinator}

/-- The store has taken these records, and all that is cached is copies of its rows. -/
structure Keeping (taken : List Record) (c : Coordinator) : Prop where
  booked : Booked taken c.rows
  cached : ∀ key e, c.cache.find? key = some e → ∀ r ∈ e.records, Placed taken r

/-- A search on such a coordinator that holds copies alone. -/
structure Copying (taken : List Record) (c : Coordinator) (s : Stage) : Prop where
  keeping : c.Keeping taken
  held : ∀ r ∈ s.held, Placed taken r

/-- A change of anything but the rows and the cache. -/
theorem Keeping.of_eq (h : c.Keeping taken) (hrows : c'.rows = c.rows)
    (hcache : c'.cache = c.cache) : c'.Keeping taken where
  booked := hrows ▸ h.booked
  cached := hcache ▸ h.cached

/-- More records are in the store. -/
theorem Keeping.append (h : c.Keeping taken) {more : List Record}
    (hbooked : Booked (taken ++ more) c'.rows) (hcache : c'.cache = c.cache) :
    c'.Keeping (taken ++ more) where
  booked := hbooked
  cached key e he r hr := (h.cached key e (hcache ▸ he) r hr).append more

theorem Keeping.placed_of_mem_hits (h : c.Keeping taken) {r : Request} {row : Record}
    (hrow : row ∈ c.rows.hits r) : Placed taken row :=
  h.booked.placed (mem_hits.mp hrow).1

theorem Keeping.placed_of_mem_search (h : c.Keeping taken) {r : Request} {row : Record}
    (hrow : row ∈ (c.rows.search r).1) : Placed taken row :=
  h.placed_of_mem_hits (mem_of_mem_paginate hrow)

theorem Keeping.lists (h : c.Keeping taken) :
    c.cache.Lists fun all => ∀ r ∈ all, Placed taken r := h.cached

/-- A cache whose lists are copies still. -/
theorem Keeping.cache (h : c.Keeping taken) {cache : CacheLink}
    (hcached : cache.Lists fun all => ∀ r ∈ all, Placed taken r) :
    ({ c with cache } : Coordinator).Keeping taken where
  booked := h.booked
  cached := hcached

/-- What a fetch brings has not been read from the store. -/
theorem not_held_of_fetch {s : Stage} {r : Request} (hs : s = .finished .crashed ∨
    (∃ e, s = .finished (.failed e)) ∨ s = .reading r ∨ ∃ batch, s = .upserting r batch) :
    ∀ row ∈ s.held, Placed taken row := by
  rcases hs with rfl | ⟨_, rfl⟩ | rfl | ⟨_, rfl⟩
  all_goals exact nofun

theorem Copying.lookup (h : c.Keeping taken) (r : Request) :
    Copying taken (c.stepLookup r).2 (c.stepLookup r).1 := by
  rcases stepLookup_cases c r with ⟨e, _, hfound, _, he⟩ | ⟨cache, _, hnone, hwithin, he⟩
  · rw [he]
    refine ⟨h.of_eq rfl rfl, fun row hrow => ?_⟩
    exact h.cached _ e hfound row (mem_of_mem_paginate hrow)
  · rw [he]
    have hcached := h.lists.of_key hwithin.others fun e hsome => by
      rw [hnone] at hsome
      cases hsome
    exact ⟨(h.cache hcached).of_eq rfl rfl, nofun⟩

theorem Copying.upsert (h : c.Keeping taken) (r : Request) (batch : List Record) :
    ∃ more, Copying (taken ++ more) (c.stepUpsert r batch).2 (c.stepUpsert r batch).1 := by
  rcases stepUpsert_cases c r batch with ⟨_, _, hrows, he⟩ | ⟨_, _, hwritten, he⟩
  · refine ⟨[], ?_⟩
    rw [he, List.append_nil]
    exact ⟨h.of_eq hrows rfl, nofun⟩
  · refine ⟨batch, ?_⟩
    rw [he]
    exact ⟨h.append (h.booked.upsert hwritten).1 rfl, nofun⟩

theorem Copying.read (h : c.Keeping taken) (r : Request) :
    Copying taken (c.stepRead r).2 (c.stepRead r).1 := by
  obtain ⟨_, hrows, ⟨_, he⟩ | ⟨_, he⟩ | he⟩ := stepRead_cases c r
  · rw [he]
    exact ⟨h.of_eq hrows rfl, nofun⟩
  · rw [he]
    refine ⟨h.of_eq hrows rfl, fun row hrow => ?_⟩
    rcases List.mem_append.mp hrow with hrow | hrow
    · exact h.placed_of_mem_search hrow
    · exact h.placed_of_mem_hits hrow
  · rw [he]
    exact ⟨h.of_eq hrows rfl, fun row hrow => h.placed_of_mem_search hrow⟩

theorem Copying.complete {r : Request} {items : List Record} {total : Nat}
    (h : Copying taken c (.completing r items total)) :
    Copying taken (c.stepComplete r items total).2 (c.stepComplete r items total).1 := by
  obtain ⟨_, hrows, he | he⟩ := stepComplete_cases c r items total
  · rw [he]
    exact ⟨h.keeping.of_eq hrows rfl, h.held⟩
  · rw [he]
    refine ⟨h.keeping.of_eq hrows rfl, fun row hrow => ?_⟩
    rcases List.mem_append.mp hrow with hrow | hrow
    · exact h.held row hrow
    · exact h.keeping.placed_of_mem_hits (mem_of_mem_paginate hrow)

theorem Copying.cache {r : Request} {items all : List Record} {total : Nat}
    (h : Copying taken c (.caching r items total all)) :
    Copying taken (c.stepCache r items total all).2 (c.stepCache r items total all).1 := by
  have hitems : ∀ row ∈ items, Placed taken row := fun row hrow =>
    h.held row (List.mem_append_left all hrow)
  have hall : ∀ row ∈ all, Placed taken row := fun row hrow =>
    h.held row (List.mem_append_right items hrow)
  have hkeeping := h.keeping.cache
    (h.keeping.lists.set hall (cacheKey r) c.cacheTtl c.clock.running)
  rcases hset : c.cache.set (cacheKey r) all c.cacheTtl c.clock.running with ⟨wrote, cache⟩
  rw [hset] at hkeeping
  cases wrote with
  | written =>
    simp only [stepCache, hset]
    exact ⟨hkeeping, hitems⟩
  | failed =>
    simp only [stepCache, hset]
    exact ⟨hkeeping.of_eq rfl rfl, hitems⟩
  | overflow =>
    simp only [stepCache, hset]
    exact ⟨hkeeping, fun row hrow => absurd hrow List.not_mem_nil⟩

/-- A stage of a search may bring more records to the store; what is held and cached stays
copies. -/
theorem Copying.step {s : Stage} (h : Copying taken c s) (cancel : Cancel) :
    ∃ more, Copying (taken ++ more) (c.step cancel s).2 (c.step cancel s).1 := by
  have hsame : ∀ {c' : Coordinator} {s' : Stage}, Copying taken c' s' →
      ∃ more, Copying (taken ++ more) c' s' := by
    intro c' s' h'
    exact ⟨[], by rw [List.append_nil]; exact h'⟩
  cases s with
  | lookup r => exact hsame (.lookup h.keeping r)
  | fetching r =>
    obtain ⟨_, _, _, he, hs⟩ := stepFetch_cases c cancel r
    simp only [Coordinator.step, he]
    exact hsame ⟨h.keeping.of_eq rfl rfl, not_held_of_fetch hs⟩
  | upserting r batch => exact Copying.upsert h.keeping r batch
  | reading r => exact hsame (.read h.keeping r)
  | completing r items total => exact hsame h.complete
  | caching r items total all => exact hsame h.cache
  | finished outcome => exact hsame h

/-- The same for a turn in which the providers bring any result. -/
theorem Copying.turn {s : Stage} (h : Copying taken c s) (result : Result) :
    ∃ more, Copying (taken ++ more) (c.turn result s).2 (c.turn result s).1 := by
  unfold Coordinator.turn
  split
  · rename_i r
    obtain ⟨_, _, he, hs⟩ := afterFetch_cases c r result
    refine ⟨[], ?_⟩
    rw [he, List.append_nil]
    exact ⟨h.keeping.of_eq rfl rfl, not_held_of_fetch hs⟩
  · exact h.step .never

theorem Copying.run {s : Stage} (h : Copying taken c s) (cancel : Cancel) (n : Nat) :
    ∃ more, Copying (taken ++ more) (c.run cancel s n).2 (c.run cancel s n).1 := by
  induction n generalizing taken c s with
  | zero => exact ⟨[], by rw [List.append_nil]; exact h⟩
  | succ n ih =>
    obtain ⟨first, hfirst⟩ := h.step cancel
    obtain ⟨more, hmore⟩ := ih hfirst
    refine ⟨first ++ more, ?_⟩
    rw [run_succ, ← List.append_assoc]
    exact hmore

end Stages

end Coordinator

/-! ## A service in use -/

/-- A coordinator and all searches on it, over or under way, in the order in which they started. -/
structure Service where
  shared : Coordinator
  searches : List Stage

/-- What can happen to a service: a search starts, the search with a number takes a turn, a search
is made from start to end, somebody writes a batch, or the providers, the clock and the metrics
change in any way. -/
inductive Event where
  | start (r : Request)
  | turn (number : Nat) (result : Result)
  | search (r : Request) (cancel : Cancel)
  | upsert (batch : List Record)
  | change (orchestrator : Orchestrator) (clock : Clock) (metrics : Metrics)

namespace Service

/-- A service that nobody uses yet. -/
def of (c : Coordinator) : Service := { shared := c, searches := [] }

def meet (s : Service) : Event → Service
  | .start r => { s with searches := s.searches ++ [.lookup (normalize s.shared.limits r)] }
  | .turn number result =>
    match s.searches[number]? with
    | none => s
    | some stage =>
      let (stage, shared) := s.shared.turn result stage
      { shared, searches := s.searches.set number stage }
  | .search r cancel =>
    let (outcome, shared) := s.shared.search r cancel
    { shared, searches := s.searches ++ [.finished outcome] }
  | .upsert batch => { s with
      shared := { s.shared with store := (s.shared.store.upsert batch).2 } }
  | .change orchestrator clock metrics => { s with
      shared := { s.shared with orchestrator, clock, metrics } }

/-- All that happens, in order. -/
def run (s : Service) (events : List Event) : Service := events.foldl meet s

/-- The items of all responses so far. -/
def shown (s : Service) : List Record :=
  s.searches.flatMap fun
    | .finished (.found response _) => response.items
    | _ => []

/-! ## The invariant -/

/-- The store is within reach and has taken these records; searches hold, and the cache keeps,
copies of its rows alone. -/
structure Faithful (taken : List Record) (s : Service) : Prop where
  keeping : s.shared.Keeping taken
  inReach : s.shared.store.InReach
  held : ∀ stage ∈ s.searches, ∀ r ∈ stage.held, Store.Placed taken r

variable {taken : List Record} {s : Service}

theorem Faithful.held_append (h : s.Faithful taken) (more : List Record) :
    ∀ stage ∈ s.searches, ∀ r ∈ stage.held, Store.Placed (taken ++ more) r :=
  fun stage hstage r hr => (h.held stage hstage r hr).append more

theorem Faithful.start (h : s.Faithful taken) (r : Request) :
    (s.meet (.start r)).Faithful taken where
  keeping := h.keeping
  inReach := h.inReach
  held stage hstage := by
    rcases List.mem_append.mp hstage with hstage | hstage
    · exact h.held stage hstage
    · rw [List.mem_singleton.mp hstage]
      exact nofun

theorem Faithful.turn (h : s.Faithful taken) (number : Nat) (result : Result) :
    ∃ more, (s.meet (.turn number result)).Faithful (taken ++ more) := by
  rcases hn : s.searches[number]? with _ | stage
  · refine ⟨[], ?_⟩
    simp only [meet, hn, List.append_nil]
    exact h
  · have hstage : stage ∈ s.searches := List.mem_of_getElem? hn
    obtain ⟨more, hmore⟩ :=
      (Coordinator.Copying.mk h.keeping (h.held stage hstage)).turn result
    refine ⟨more, ?_⟩
    simp only [meet, hn]
    refine ⟨hmore.keeping, ?_, fun other hother => ?_⟩
    · intro op n
      rw [Coordinator.turn_isOut]
      exact h.inReach op n
    · rcases List.mem_or_eq_of_mem_set hother with hother | rfl
      · exact h.held_append more other hother
      · exact hmore.held

theorem Faithful.search (h : s.Faithful taken) (r : Request) (cancel : Cancel) :
    ∃ more, (s.meet (.search r cancel)).Faithful (taken ++ more) := by
  obtain ⟨more, hmore⟩ := (Coordinator.Copying.mk (s := .lookup (normalize s.shared.limits r))
    h.keeping nofun).run cancel Coordinator.maxStages
  have hend := Coordinator.run_finished s.shared cancel (.lookup (normalize s.shared.limits r))
    (n := Coordinator.maxStages) (Nat.le_refl _)
  refine ⟨more, hmore.keeping, ?_, fun stage hstage => ?_⟩
  · intro op n
    have hout := Coordinator.run_isOut s.shared cancel (.lookup (normalize s.shared.limits r))
      Coordinator.maxStages
    exact (congrFun (congrFun hout op) n).trans (h.inReach op n)
  · rcases List.mem_append.mp hstage with hstage | hstage
    · exact h.held_append more stage hstage
    · rw [List.mem_singleton.mp hstage]
      rw [hend] at hmore
      exact hmore.held

theorem Faithful.upsert (h : s.Faithful taken) (batch : List Record) :
    ∃ more, (s.meet (.upsert batch)).Faithful (taken ++ more) := by
  have hreach : (s.meet (.upsert batch)).shared.store.InReach := by
    intro op n
    show (s.shared.store.upsert batch).2.isOut op n = false
    rw [StoreLink.upsert_isOut]
    exact h.inReach op n
  rcases StoreLink.upsert_store s.shared.store batch with ⟨_, _, hsame⟩ | ⟨_, _, hwritten⟩
  · refine ⟨[], ?_⟩
    rw [List.append_nil]
    exact ⟨h.keeping.of_eq hsame rfl, hreach, h.held⟩
  · exact ⟨batch, h.keeping.append (h.keeping.booked.upsert hwritten).1 rfl, hreach,
      h.held_append batch⟩

theorem Faithful.meet (h : s.Faithful taken) (event : Event) :
    ∃ more, (s.meet event).Faithful (taken ++ more) := by
  cases event with
  | start r => exact ⟨[], by rw [List.append_nil]; exact h.start r⟩
  | turn number result => exact h.turn number result
  | search r cancel => exact h.search r cancel
  | upsert batch => exact h.upsert batch
  | change orchestrator clock metrics =>
    refine ⟨[], ?_⟩
    rw [List.append_nil]
    exact ⟨h.keeping.of_eq rfl rfl, h.inReach, h.held⟩

theorem Faithful.run (h : s.Faithful taken) (events : List Event) :
    ∃ more, (s.run events).Faithful (taken ++ more) := by
  induction events generalizing taken s with
  | nil => exact ⟨[], by rw [List.append_nil]; exact h⟩
  | cons event rest ih =>
    obtain ⟨first, hfirst⟩ := h.meet event
    obtain ⟨more, hmore⟩ := ih hfirst
    refine ⟨first ++ more, ?_⟩
    rw [← List.append_assoc]
    exact hmore

theorem Faithful.of_new {c : Coordinator} (hrows : c.rows = .empty) (hreach : c.store.InReach)
    (hcache : ∀ key, c.cache.find? key = none) : (of c).Faithful [] where
  keeping := by
    refine ⟨?_, fun key e he => ?_⟩
    · show Store.Booked [] c.rows
      rw [hrows]
      exact .empty
    · rw [show (of c).shared.cache.find? key = none from hcache key] at he
      cases he
  inReach := hreach
  held := nofun

/-- Whatever is shown is a copy of a row. -/
theorem Faithful.placed_of_mem_shown (h : s.Faithful taken) {item : Record}
    (hitem : item ∈ s.shown) : Store.Placed taken item := by
  obtain ⟨stage, hstage, hshown⟩ := List.mem_flatMap.mp hitem
  apply h.held stage hstage
  split at hshown
  · exact hshown
  · exact absurd hshown List.not_mem_nil

theorem Faithful.getById (h : s.Faithful taken) {id : Int} {row : Record}
    (hrow : s.shared.rows.get id = .ok row) : (s.shared.getById id).1 = .ok row := by
  have hanswer := h.inReach.get id
  rcases hget : s.shared.store.get id with ⟨answer, store⟩
  rw [hget] at hanswer
  obtain rfl : answer = .ok row := hanswer.trans hrow
  simp only [Coordinator.getById, hget]

end Service

/-! ## The law -/

/-- On a coordinator that starts with an empty store, which stays within reach, and an empty cache:
whatever happens, every item that is shown has an id from 1 on, and at any later time the id leads
to a row of the same provider, name there and time of creation. Of all items shown, those of one id
are those of one key. -/
theorem an_id_that_was_shown_leads_to_its_key (c : Coordinator) (hrows : c.rows = .empty)
    (hreach : c.store.InReach) (hcache : ∀ key, c.cache.find? key = none) (events : List Event) :
    let s := (Service.of c).run events
    (∀ item ∈ s.shown, ∀ later, ∃ id row, item.id = some id ∧ 1 ≤ id ∧
      ((s.run later).shared.getById id).1 = .ok row ∧ row.provider = item.provider ∧
      row.providerId = item.providerId ∧ row.createdAt = item.createdAt) ∧
    ∀ item ∈ s.shown, ∀ other ∈ s.shown,
      item.id = other.id ↔ item.naturalKey = other.naturalKey := by
  intro s
  obtain ⟨taken, hs⟩ := (Service.Faithful.of_new hrows hreach hcache).run events
  refine ⟨fun item hitem later => ?_, fun item hitem other hother => ?_⟩
  · obtain ⟨more, hlater⟩ := hs.run later
    have hplaced := (hs.placed_of_mem_shown hitem).append more
    obtain ⟨id, row, hid, hpos, hget, hkey, hcreated⟩ := hplaced.row hlater.keeping.booked
    exact ⟨id, row, hid, hpos, hlater.getById hget, congrArg NaturalKey.provider hkey,
      congrArg NaturalKey.providerId hkey, hcreated⟩
  · exact (hs.placed_of_mem_shown hitem).id_eq_iff (hs.placed_of_mem_shown hother)

/-- A post that its provider sends with an id of its own. -/
def stray (id : Int) (title : String) (createdAt : Time.Moment) : Record :=
  { Record.unseen "posts" "1" title with id := some id, createdAt }

/-- A coordinator over a provider that sends its one post anew with every fetch. -/
def strays : Coordinator :=
  { quiet with
    orchestrator := (Orchestrator.new (.empty .standard) .longest).register
      (.scripted "posts" [⟨1, .records [stray 77 "b" ⟨3, 0⟩]⟩,
        ⟨1, .records [stray 5 "b, revised" ⟨9, 0⟩]⟩] false 0) }

/-- A search fills the cache, one for another key brings the post anew, and somebody writes the post
of another provider. The last search is served from the cache. -/
def straying : List Event :=
  [.search (.ofQuery "b") .never, .search (.ofQuery "revised") .never,
    .upsert [.unseen "others" "1" "b"], .search (.ofQuery "b") .never]

/-- The post is shown under the id 1, in its old words and in its new ones. Both copies lead to one
row for good, which keeps its first time of creation. -/
theorem a_stray_id_gives_way_for_good :
    let s := (Service.of strays).run straying
    stray 1 "b" ⟨3, 0⟩ ∈ s.shown ∧ stray 1 "b, revised" ⟨3, 0⟩ ∈ s.shown ∧
      ∀ later, ∃ row, ((s.run later).shared.getById 1).1 = .ok row ∧ row.createdAt = ⟨3, 0⟩ := by
  intro s
  obtain ⟨hlasts, _⟩ := an_id_that_was_shown_leads_to_its_key strays rfl (fun _ _ => rfl)
    (fun _ => rfl) straying
  have hold : stray 1 "b" ⟨3, 0⟩ ∈ s.shown := by decide +kernel
  have hnew : stray 1 "b, revised" ⟨3, 0⟩ ∈ s.shown := by decide +kernel
  refine ⟨hold, hnew, fun later => ?_⟩
  obtain ⟨id, row, hid, _, hget, _, _, hcreated⟩ := hlasts _ hold later
  obtain rfl : 1 = id := Option.some.inj hid
  exact ⟨row, hget, hcreated⟩

end Search

end FeedSearch
