-- What a search that fails leaves behind. It writes nothing to the cache, and
-- its batch is in the store whole or not at all.
import FeedSearch.Proofs.SearchStages

namespace FeedSearch

open Search

/-! ## A look that finds nothing -/

/-- The cache after a look at a key: as it was, or without the entry of the key, which had
expired. -/
def Search.CacheLink.Swept (l l' : CacheLink) (key : String) (now : Instant) : Prop :=
  l' = l ∨ ∃ memory stale, l = .memory memory ∧ memory.find? key = some stale ∧
    stale.isFresh now = false ∧ l' = .memory (memory.erase key)

theorem Cache.get_swept {c : Cache} {key : String} {now : Instant}
    (h : (c.get key now).1 = none) : (c.get key now).2 = c ∨
      ∃ stale, c.find? key = some stale ∧ stale.isFresh now = false ∧
        (c.get key now).2 = c.erase key := by
  unfold Cache.get Cache.glimpse at h ⊢
  rcases hf : c.find? key with _ | e
  · exact Or.inl rfl
  · by_cases hfresh : e.isFresh now = true
    · simp [hf, hfresh] at h
    · refine Or.inr ⟨e, rfl, by simpa using hfresh, ?_⟩
      simp only [hfresh, Cache.eraseStale, hf]
      rfl

theorem Search.CacheLink.get_swept {l : CacheLink} {key : String} {now : Instant}
    (h : (l.get key now).1 = none) : l.Swept (l.get key now).2 key now := by
  cases l with
  | broken => exact Or.inl rfl
  | memory memory =>
    rcases Cache.get_swept h with hc | ⟨stale, hstale, hexpired, hc⟩
    · exact Or.inl (congrArg CacheLink.memory hc)
    · exact Or.inr ⟨memory, stale, rfl, hstale, hexpired, congrArg CacheLink.memory hc⟩

namespace Search.Coordinator

open Fetch

/-! ## What a search fetches -/

/-- The fetch of a search that is not served from the cache. -/
def fetch (c : Coordinator) (r : Request) (cancel : Cancel) : FetchRun :=
  c.orchestrator.fetchAll (query r cancel) c.clock
    { c.metrics with misses := c.metrics.misses + 1 }

/-- What has been fetched, scored at the end of the fetch. -/
def scored (c : Coordinator) (run : FetchRun) (fetched : List Record) : List Record :=
  fetched.map fun r => { r with score := c.scorer r run.clock.wall }

/-- The rows with the batch of the search written. -/
def BatchWritten (c : Coordinator) (r : Request) (cancel : Cancel) (rows : Store) : Prop :=
  ∃ fetched ids, (c.fetch r cancel).result = .records fetched ∧
    c.rows.upsert (c.scored (c.fetch r cancel) fetched) = .ok (ids, rows)

/-- The error of a search, and the rows that it leaves. -/
def FailedWith (c : Coordinator) (r : Request) (cancel : Cancel) (rows : Store) :
    SearchError → Prop
  | .provider failures => (c.fetch r cancel).result = .allFailed failures ∧ rows = c.rows
  | .storage operation _ => operation = "upsert_batch" ∧ rows = c.rows ∨
      operation = "search" ∧ c.BatchWritten r cancel rows
  | .notFound _ _ => False
  | .invalidInput _ => False

/-! ## Stage by stage -/

/-- What a search has done to the cache and the rows when it comes to a stage, as far as it may
still fail. -/
def Harmless (c : Coordinator) (r : Request) (cancel : Cancel) (now : Coordinator) :
    Stage → Prop
  | .lookup r' => r' = r ∧ now = c
  | .fetching r' => r' = r ∧ ∃ cache, c.cache.Swept cache (cacheKey r) c.clock.running ∧
      now = { c with cache, metrics := { c.metrics with misses := c.metrics.misses + 1 } }
  | .upserting _ batch => c.cache.Swept now.cache (cacheKey r) c.clock.running ∧
      now.rows = c.rows ∧ ∃ fetched, (c.fetch r cancel).result = .records fetched ∧
        batch = c.scored (c.fetch r cancel) fetched
  | .reading _ => c.cache.Swept now.cache (cacheKey r) c.clock.running ∧
      c.BatchWritten r cancel now.rows
  | .finished (.failed e) => c.cache.Swept now.cache (cacheKey r) c.clock.running ∧
      c.FailedWith r cancel now.rows e
  | _ => True

variable {c now : Coordinator} {r : Request} {cancel : Cancel}

theorem stepLookup_harmless (c : Coordinator) (r : Request) (cancel : Cancel) :
    c.Harmless r cancel (c.stepLookup r).2 (c.stepLookup r).1 := by
  rcases hg : c.cache.get (cacheKey r) c.clock.running with ⟨found, cache⟩
  cases found with
  | some all =>
    simp only [stepLookup, hg]
    trivial
  | none =>
    have hswept : c.cache.Swept (c.cache.get (cacheKey r) c.clock.running).2 (cacheKey r)
        c.clock.running := CacheLink.get_swept (by rw [hg])
    rw [hg] at hswept
    simp only [stepLookup, hg]
    exact ⟨rfl, cache, hswept, rfl⟩

/-- A fetch that fails leaves the rows. What it brings is scored, and a batch of nothing needs no
write. -/
theorem afterFetch_harmless (hswept : c.cache.Swept now.cache (cacheKey r) c.clock.running)
    (hrows : now.rows = c.rows) (hscorer : now.scorer = c.scorer)
    (hclock : now.clock = (c.fetch r cancel).clock) :
    c.Harmless r cancel (now.afterFetch r (c.fetch r cancel).result).2
      (now.afterFetch r (c.fetch r cancel).result).1 := by
  cases hresult : (c.fetch r cancel).result with
  | crashed => trivial
  | allFailed failures => exact ⟨hswept, hresult, hrows⟩
  | records fetched =>
    have hbatch : (now.score fetched).1 = c.scored (c.fetch r cancel) fetched := by
      unfold score scored
      rw [hscorer, hclock]
      rfl
    have hkeep : (now.score fetched).2.rows = c.rows := hrows
    unfold afterFetch
    simp only
    rw [hbatch]
    split
    · rename_i hempty
      refine ⟨hswept, fetched, [], hresult, ?_⟩
      rw [hkeep, List.isEmpty_iff.mp hempty]
      rfl
    · exact ⟨hswept, hkeep, fetched, hresult, rfl⟩

theorem stepFetch_harmless {cache : CacheLink}
    (hswept : c.cache.Swept cache (cacheKey r) c.clock.running)
    (hnow : now = { c with
      cache, metrics := { c.metrics with misses := c.metrics.misses + 1 } }) :
    c.Harmless r cancel (now.stepFetch cancel r).2 (now.stepFetch cancel r).1 := by
  subst hnow
  exact afterFetch_harmless hswept rfl rfl rfl

theorem stepUpsert_harmless {r' : Request} {batch : List Record}
    (h : c.Harmless r cancel now (.upserting r' batch)) :
    c.Harmless r cancel (now.stepUpsert r' batch).2 (now.stepUpsert r' batch).1 := by
  obtain ⟨hswept, hrows, fetched, hresult, rfl⟩ := h
  rcases stepUpsert_cases now r' (c.scored (c.fetch r cancel) fetched) with
    ⟨e, store, hs, he⟩ | ⟨ids, store, hu, he⟩
  · rw [he]
    exact ⟨hswept, Or.inl ⟨rfl, hs.trans hrows⟩⟩
  · rw [he]
    rw [hrows] at hu
    exact ⟨hswept, fetched, ids, hresult, hu⟩

theorem stepRead_harmless {r' : Request} (h : c.Harmless r cancel now (.reading r')) :
    c.Harmless r cancel (now.stepRead r').2 (now.stepRead r').1 := by
  obtain ⟨hswept, hbatch⟩ := h
  obtain ⟨store, hs, ⟨e, he⟩ | ⟨_, he⟩ | he⟩ := stepRead_cases now r'
  · rw [he]
    have hrows : ({ now with store } : Coordinator).rows = now.rows := hs
    refine ⟨hswept, Or.inr ⟨rfl, ?_⟩⟩
    rw [hrows]
    exact hbatch
  · rw [he]
    trivial
  · rw [he]
    trivial

theorem Harmless.step {s : Stage} (h : c.Harmless r cancel now s) :
    c.Harmless r cancel (now.step cancel s).2 (now.step cancel s).1 := by
  cases s with
  | lookup r' =>
    obtain ⟨rfl, rfl⟩ := h
    exact stepLookup_harmless _ _ _
  | fetching r' =>
    obtain ⟨rfl, cache, hswept, hnow⟩ := h
    exact stepFetch_harmless hswept hnow
  | upserting r' batch => exact stepUpsert_harmless h
  | reading r' => exact stepRead_harmless h
  | completing r' items total =>
    -- From here on no error ends the search.
    obtain ⟨_, _, he | he⟩ := stepComplete_cases now r' items total
    all_goals
      simp only [Coordinator.step, he]
      trivial
  | caching r' items total all =>
    obtain ⟨_, _, ⟨_, he⟩ | ⟨_, he | he⟩⟩ := stepCache_cases now r' items total all
    all_goals
      simp only [Coordinator.step, he]
      trivial
  | finished outcome => exact h

theorem Harmless.run {s : Stage} (h : c.Harmless r cancel now s) (n : Nat) :
    c.Harmless r cancel (now.run cancel s n).2 (now.run cancel s n).1 := by
  induction n generalizing now s with
  | zero => exact h
  | succ n ih =>
    rw [run_succ]
    exact ih h.step

/-! ## The law -/

/-- A search that fails leaves the cache as it was, but for an entry of its own key that had
expired. If the providers failed or the batch could not be written, the store is as before; if the
page could not be read, the store is as before with the scored batch written. No search fails in any
other way. -/
theorem a_failed_search_leaves_nothing_but_its_batch (c : Coordinator) (r : Request)
    (cancel : Cancel) (e : SearchError) (h : (c.search r cancel).1 = .failed e) :
    let r' := normalize c.limits r
    let c' := (c.search r cancel).2
    c.cache.Swept c'.cache (cacheKey r') c.clock.running ∧
    ((∃ failures, e = .provider failures ∧ (c.fetch r' cancel).result = .allFailed failures ∧
        c'.rows = c.rows) ∨
      (∃ cause, e = .storage "upsert_batch" cause ∧ c'.rows = c.rows) ∨
      ∃ cause fetched ids, e = .storage "search" cause ∧
        (c.fetch r' cancel).result = .records fetched ∧
        c.rows.upsert (c.scored (c.fetch r' cancel) fetched) = .ok (ids, c'.rows)) := by
  intro r' c'
  have hend : (c.run cancel (.lookup r') maxStages).1 = .finished (.failed e) := by
    rw [run_finished c cancel (.lookup r') (n := maxStages) (Nat.le_refl _)]
    exact congrArg Stage.finished h
  have hharmless : c.Harmless r' cancel c' (.finished (.failed e)) := by
    rw [← hend]
    exact Harmless.run (s := .lookup r') ⟨rfl, rfl⟩ maxStages
  obtain ⟨hswept, hfailed⟩ := hharmless
  refine ⟨hswept, ?_⟩
  cases e with
  | provider failures => exact Or.inl ⟨failures, rfl, hfailed⟩
  | storage operation cause =>
    rcases hfailed with ⟨rfl, hrows⟩ | ⟨rfl, fetched, ids, hresult, hu⟩
    · exact Or.inr (Or.inl ⟨cause, rfl, hrows⟩)
    · exact Or.inr (Or.inr ⟨cause, fetched, ids, rfl, hresult, hu⟩)
  | notFound resource id => exact hfailed.elim
  | invalidInput fault => exact hfailed.elim

def oneForest : Record := .unseen "notes" "1" "a forest"

def forests : Request := Request.ofQuery "forest"

/-- The store cannot be read the first time, and what the cache holds has expired. -/
def unreadable : Coordinator where
  orchestrator := (Orchestrator.new (.empty .standard) .longest).register
    (.scripted "notes" [⟨5, .records [oneForest]⟩] false 0)
  store := { store := .empty, isOut := fun op n => op == .search && n == 1, calls := fun _ => 0 }
  cache := .memory { Cache.standard with
    entries := [⟨cacheKey (normalize .standard forests), [], 3⟩] }
  scorer := constantScorer .zero
  limits := .standard
  cacheTtl := Cache.standardTtl
  clock := ⟨10, ⟨0, 0⟩⟩
  metrics := .empty

/-- The record is stored although the search fails, and the entry that had expired is gone. -/
theorem a_page_out_of_reach_leaves_the_batch_written :
    let c' := (unreadable.search forests .never).2
    (unreadable.search forests .never).1 =
      .failed (.storage "search" (.unavailable "search call 1")) ∧
    unreadable.cache.Swept c'.cache (cacheKey (normalize .standard forests)) 10 ∧
    c'.rows.rows = [{ oneForest with id := some 1 }] := by
  intro c'
  have hfailed : (unreadable.search forests .never).1 =
      .failed (.storage "search" (.unavailable "search call 1")) := by decide +kernel
  obtain ⟨hswept, hprovider | hupsert | hsearch⟩ :=
    a_failed_search_leaves_nothing_but_its_batch unreadable forests .never _ hfailed
  · obtain ⟨_, he, _⟩ := hprovider
    cases he
  · obtain ⟨_, he, _⟩ := hupsert
    simp at he
  · obtain ⟨_, fetched, ids, _, hresult, hu⟩ := hsearch
    refine ⟨hfailed, hswept, ?_⟩
    have honly : (unreadable.fetch (normalize unreadable.limits forests) .never).result =
        .records [oneForest] := by decide +kernel
    obtain rfl : [oneForest] = fetched := by simpa using honly.symm.trans hresult
    have hrows := congrArg (fun answer => answer.toOption.map fun written => written.2.rows) hu
    have hone : (unreadable.rows.upsert (unreadable.scored
        (unreadable.fetch (normalize unreadable.limits forests) .never) [oneForest])).toOption.map
        (fun written => written.2.rows) = some [{ oneForest with id := some 1 }] := by
      decide +kernel
    exact Option.some.inj (hrows.symm.trans hone)

end Search.Coordinator

end FeedSearch
