-- One search, stage by stage: what every stage keeps of the coordinator, and
-- what a search that was not in the cache has done by its end.
import FeedSearch.Proofs.CacheEntries
import FeedSearch.Proofs.StoreReads
import FeedSearch.Search.Coordinator

namespace FeedSearch

/-- The response to a request from the rows. -/
def Store.answer (s : Store) (r : Request) : Search.Response :=
  .of (s.search r).1 (s.search r).2 r.page r.pageSize

namespace Search

open Fetch

/-! ## How far a search has come -/

/-- The request that a search is about, until it is over. -/
def Stage.request? : Stage → Option Request
  | .lookup r => some r
  | .fetching r => some r
  | .upserting r _ => some r
  | .reading r => some r
  | .completing r _ _ => some r
  | .caching r _ _ _ => some r
  | .finished _ => none

/-- The most stages that are left. -/
def Stage.left : Stage → Nat
  | .lookup _ => 6
  | .fetching _ => 5
  | .upserting _ _ => 4
  | .reading _ => 3
  | .completing _ _ _ => 2
  | .caching _ _ _ _ => 1
  | .finished _ => 0

namespace Coordinator

/-- The rows of the store. -/
abbrev rows (c : Coordinator) : Store := c.store.store

/-- The nanoseconds for which an entry that is written lives. -/
def ttl (c : Coordinator) : Nat := c.cache.ttlOf c.cacheTtl

theorem eq_finished {s : Stage} (h : s.left = 0) : s = .finished (Stage.outcome s) := by
  cases s with
  | finished outcome => rfl
  | _ => simp [Stage.left] at h

@[simp] theorem run_zero (c : Coordinator) (cancel : Cancel) (s : Stage) :
    c.run cancel s 0 = (s, c) := rfl

theorem run_succ (c : Coordinator) (cancel : Cancel) (s : Stage) (n : Nat) :
    c.run cancel s (n + 1) = (c.step cancel s).2.run cancel (c.step cancel s).1 n := rfl

theorem run_add (c : Coordinator) (cancel : Cancel) (s : Stage) (m n : Nat) :
    c.run cancel s (m + n) = (c.run cancel s m).2.run cancel (c.run cancel s m).1 n := by
  induction m generalizing c s with
  | zero => rw [Nat.zero_add, run_zero]
  | succ m ih => rw [Nat.succ_add, run_succ, run_succ, ih]

/-! ## The single stages -/

theorem afterFetch_left (c : Coordinator) (r : Request) (result : Result) :
    (c.afterFetch r result).1.left ≤ 4 := by
  unfold afterFetch
  cases result with
  | records fetched =>
    simp only
    split
    · exact Nat.le_succ 3
    · exact Nat.le_refl _
  | allFailed failures => exact Nat.zero_le _
  | crashed => exact Nat.zero_le _

theorem step_left (c : Coordinator) (cancel : Cancel) (s : Stage) :
    (c.step cancel s).1.left ≤ s.left - 1 := by
  cases s with
  | lookup r =>
    simp only [step, stepLookup]
    split
    · exact Nat.zero_le _
    · exact Nat.le_refl _
  | fetching r => exact afterFetch_left _ _ _
  | upserting r batch =>
    simp only [step, stepUpsert]
    split
    · exact Nat.zero_le _
    · exact Nat.le_refl _
  | reading r =>
    simp only [step, stepRead]
    split
    · exact Nat.zero_le _
    · split
      · exact Nat.le_succ 1
      · exact Nat.le_refl _
  | completing r items total =>
    simp only [step, stepComplete]
    split
    · exact Nat.zero_le _
    · exact Nat.le_refl _
  | caching r items total all =>
    simp only [step, stepCache]
    split <;> exact Nat.zero_le _
  | finished outcome => exact Nat.zero_le _

theorem run_left (c : Coordinator) (cancel : Cancel) (s : Stage) (n : Nat) :
    (c.run cancel s n).1.left ≤ s.left - n := by
  induction n generalizing c s with
  | zero => exact Nat.le_refl _
  | succ n ih =>
    rw [run_succ]
    have h := ih (c.step cancel s).2 (c.step cancel s).1
    have := step_left c cancel s
    omega

/-- A search is over after the stages that are left. -/
theorem run_finished (c : Coordinator) (cancel : Cancel) (s : Stage) {n : Nat} (h : s.left ≤ n) :
    (c.run cancel s n).1 = .finished (Stage.outcome (c.run cancel s n).1) := by
  apply eq_finished
  have := run_left c cancel s n
  omega

/-! ## What every stage keeps -/

/-- What a search keeps of the coordinator: its settings, the entries of other keys at most, and
every row. -/
structure Within (key : String) (c c' : Coordinator) : Prop where
  limits : c'.limits = c.limits
  cacheTtl : c'.cacheTtl = c.cacheTtl
  ttlOf : ∀ wanted, c'.cache.ttlOf wanted = c.cache.ttlOf wanted
  others : ∀ other, other ≠ key → CacheLink.NothingNew c.cache c'.cache other
  size : c.rows.size ≤ c'.rows.size

theorem Within.refl (key : String) (c : Coordinator) : Within key c c :=
  ⟨rfl, rfl, fun _ => rfl, fun _ _ => .refl _ _, Nat.le_refl _⟩

theorem Within.trans {key : String} {c c' c'' : Coordinator} (h : Within key c c')
    (h' : Within key c' c'') : Within key c c'' where
  limits := h'.limits.trans h.limits
  cacheTtl := h'.cacheTtl.trans h.cacheTtl
  ttlOf wanted := (h'.ttlOf wanted).trans (h.ttlOf wanted)
  others other ho := (h.others other ho).trans (h'.others other ho)
  size := Nat.le_trans h.size h'.size

theorem Within.ttl {key : String} {c c' : Coordinator} (h : Within key c c') : c'.ttl = c.ttl := by
  unfold Coordinator.ttl
  rw [h.cacheTtl, h.ttlOf]

/-- A change of anything but settings, cache and rows. -/
theorem Within.of_eq {key : String} {c c' : Coordinator} (hl : c'.limits = c.limits)
    (ht : c'.cacheTtl = c.cacheTtl) (hc : c'.cache = c.cache) (hr : c.rows.size ≤ c'.rows.size) :
    Within key c c' :=
  ⟨hl, ht, fun _ => by rw [hc], fun _ _ => Or.inl (by rw [hc]), hr⟩

/-! ## What every stage can do -/

/-- A look into the cache: an entry that may still be served ends the search; else the key has no
entry from then on. -/
theorem stepLookup_cases (c : Coordinator) (r : Request) :
    (∃ e metrics, c.cache.find? (cacheKey r) = some e ∧ e.isFresh c.clock.running = true ∧
      c.stepLookup r = (.finished (.found (.ofAll e.records r) .hit), { c with metrics })) ∨
    ∃ cache metrics, cache.find? (cacheKey r) = none ∧ Within (cacheKey r) c { c with cache } ∧
      c.stepLookup r = (.fetching r, { c with cache, metrics }) := by
  rcases hg : c.cache.get (cacheKey r) c.clock.running with ⟨found, cache⟩
  rcases found with _ | all
  · obtain ⟨hnone, ho⟩ := CacheLink.get_none (by rw [hg])
    have ht := CacheLink.get_ttlOf c.cache (cacheKey r) c.clock.running
    rw [hg] at hnone ho ht
    refine Or.inr ⟨cache, _, hnone, ?_, by simp only [stepLookup, hg]; rfl⟩
    exact ⟨rfl, rfl, ht, fun other h => Or.inl (ho other h), Nat.le_refl _⟩
  · obtain ⟨e, he, hfresh, hr, hc⟩ := CacheLink.get_some (by rw [hg])
    rw [hg] at hc
    simp only at hc
    subst hr hc
    exact Or.inl ⟨e, _, he, hfresh, by simp only [stepLookup, hg]; rfl⟩

/-- A fetch ends the search, or brings a batch to write, or nothing to write. -/
theorem afterFetch_cases (c : Coordinator) (r : Request) (result : Result) :
    ∃ clock, clock.running = c.clock.running ∧ (c.afterFetch r result).2 = { c with clock } ∧
      ((c.afterFetch r result).1 = .finished .crashed ∨
        (∃ e, (c.afterFetch r result).1 = .finished (.failed e)) ∨
        (c.afterFetch r result).1 = .reading r ∨
        ∃ batch, (c.afterFetch r result).1 = .upserting r batch) := by
  cases result with
  | records fetched =>
    rcases hb : c.score fetched with ⟨batch, scored⟩
    obtain rfl : scored = { c with clock := c.clock.read.2 } := (congrArg Prod.snd hb).symm
    refine ⟨c.clock.read.2, rfl, ?_⟩
    by_cases he : batch.isEmpty = true
    · simp [afterFetch, hb, he]
    · simp [afterFetch, hb, he]
  | allFailed failures => exact ⟨c.clock, rfl, rfl, Or.inr (Or.inl ⟨_, rfl⟩)⟩
  | crashed => exact ⟨c.clock, rfl, rfl, Or.inl rfl⟩

/-- A fetch leaves the rows and the cache. -/
theorem stepFetch_cases (c : Coordinator) (cancel : Cancel) (r : Request) :
    ∃ orchestrator clock metrics,
      (c.stepFetch cancel r).2 = { c with orchestrator, clock, metrics } ∧
      ((c.stepFetch cancel r).1 = .finished .crashed ∨
        (∃ e, (c.stepFetch cancel r).1 = .finished (.failed e)) ∨
        (c.stepFetch cancel r).1 = .reading r ∨
        ∃ batch, (c.stepFetch cancel r).1 = .upserting r batch) := by
  unfold stepFetch
  generalize c.orchestrator.fetchAll (query r cancel) c.clock c.metrics = run
  obtain ⟨clock, _, he, hs⟩ := afterFetch_cases { c with
    orchestrator := run.orchestrator, clock := run.clock, metrics := run.metrics } r run.result
  exact ⟨run.orchestrator, clock, run.metrics, he, hs⟩

/-- A write of a batch either fails and leaves the rows, or writes the batch. -/
theorem stepUpsert_cases (c : Coordinator) (r : Request) (batch : List Record) :
    (∃ e store, store.store = c.rows ∧
      c.stepUpsert r batch = (.finished (.failed (.storage "upsert_batch" e)), { c with store })) ∨
    ∃ ids store, c.rows.upsert batch = .ok (ids, store.store) ∧
      c.stepUpsert r batch = (.reading r, { c with store }) := by
  rcases hu : c.store.upsert batch with ⟨answer, store⟩
  rcases StoreLink.upsert_store c.store batch with ⟨e, he, hs⟩ | ⟨ids, hi, hs⟩
  · rw [hu] at he hs
    simp only at he hs
    subst he
    exact Or.inl ⟨e, store, hs, by simp only [stepUpsert, hu]⟩
  · rw [hu] at hi hs
    simp only at hi hs
    subst hi
    exact Or.inr ⟨ids, store, hs, by simp only [stepUpsert, hu]⟩

theorem eq_hits_of_coversAll {s : Store} {r : Request}
    (h : coversAll r (s.search r).1 (s.search r).2 = true) : (s.search r).1 = s.hits r := by
  unfold coversAll Store.search at h
  simp only [Bool.and_eq_true, beq_iff_eq] at h
  unfold Store.search
  simp only [h.2]
  rw [h.2] at h
  exact paginate_one_of_length _ _ h.1.symm

/-- A read of the page leaves the rows. What it gets is all there is, or the rest is read next. -/
theorem stepRead_cases (c : Coordinator) (r : Request) :
    ∃ store : StoreLink, store.store = c.rows ∧
      ((∃ e, c.stepRead r = (.finished (.failed (.storage "search" e)), { c with store })) ∨
        ((c.rows.search r).1 = c.rows.hits r ∧ c.stepRead r =
          (.caching r (c.rows.search r).1 (c.rows.search r).2 (c.rows.hits r), { c with store })) ∨
        c.stepRead r =
          (.completing r (c.rows.search r).1 (c.rows.search r).2, { c with store })) := by
  have hs := StoreLink.search_store c.store r
  rcases hu : c.store.search r with ⟨answer, store⟩
  rw [hu] at hs
  refine ⟨store, hs, ?_⟩
  rcases answer with e | ⟨items, total⟩
  · exact Or.inl ⟨e, by simp only [stepRead, hu]⟩
  · have hr : c.rows.search r = (items, total) := StoreLink.search_ok hu
    by_cases hc : coversAll r items total = true
    · have hall : items = c.rows.hits r := by
        have := eq_hits_of_coversAll (s := c.rows) (r := r) (by rw [hr]; exact hc)
        rwa [hr] at this
      refine Or.inr (Or.inl ⟨by rw [hr]; exact hall, ?_⟩)
      simp only [stepRead, hu, hc, if_true, hr, ← hall]
    · exact Or.inr (Or.inr (by simp [stepRead, hu, hc, hr]))

/-- A read of the rest leaves the rows. It gets as many hits as were counted before. -/
theorem stepComplete_cases (c : Coordinator) (r : Request) (items : List Record) (total : Nat) :
    ∃ store : StoreLink, store.store = c.rows ∧
      (c.stepComplete r items total =
          (.finished (missResponse r items total), writeFailed { c with store }) ∨
        c.stepComplete r items total =
          (.caching r items total (paginate (c.rows.hits r) 1 total), { c with store })) := by
  have hs := StoreLink.search_store c.store { r with page := 1, pageSize := total }
  rcases hu : c.store.search { r with page := 1, pageSize := total } with ⟨answer, store⟩
  rw [hu] at hs
  refine ⟨store, hs, ?_⟩
  rcases answer with e | ⟨all, n⟩
  · exact Or.inl (by simp only [stepComplete, hu])
  · have hr := StoreLink.search_ok hu
    have hall : paginate (c.rows.hits r) 1 total = all := congrArg Prod.fst hr
    exact Or.inr (by simp only [stepComplete, hu, hall])

/-- A write to the cache leaves its entry under the key, or is not done. -/
theorem stepCache_cases (c : Coordinator) (r : Request) (items : List Record) (total : Nat)
    (all : List Record) :
    ∃ cache, Within (cacheKey r) c { c with cache } ∧
      ((cache.find? (cacheKey r) =
            some { key := cacheKey r, records := all, expiresAt := c.clock.running + c.ttl } ∧
          c.stepCache r items total all =
            (.finished (missResponse r items total), { c with cache })) ∨
        ((c.cache.find? (cacheKey r) = none → cache.find? (cacheKey r) = none) ∧
          (c.stepCache r items total all =
              (.finished (missResponse r items total), writeFailed { c with cache }) ∨
            c.stepCache r items total all = (.finished .crashed, { c with cache })))) := by
  have ht := CacheLink.set_ttlOf c.cache (cacheKey r) all c.cacheTtl c.clock.running
  have ho := fun other => CacheLink.set_other c.cache (cacheKey r) other all c.cacheTtl
    c.clock.running
  have hw := CacheLink.set_written c.cache (cacheKey r) all c.cacheTtl c.clock.running
  have hn := CacheLink.set_not_written c.cache (cacheKey r) all c.cacheTtl c.clock.running
  rcases hset : c.cache.set (cacheKey r) all c.cacheTtl c.clock.running with ⟨wrote, cache⟩
  rw [hset] at ht hw hn
  simp only [hset] at ho
  refine ⟨cache, ⟨rfl, rfl, ht, ho, Nat.le_refl _⟩, ?_⟩
  cases wrote with
  | written => exact Or.inl ⟨hw rfl, by simp only [stepCache, hset]⟩
  | failed => exact Or.inr ⟨hn (by simp), Or.inl (by simp only [stepCache, hset])⟩
  | overflow => exact Or.inr ⟨hn (by simp), Or.inr (by simp only [stepCache, hset])⟩

/-! ## What a stage keeps -/

/-- The same settings, the same cache and the same rows. -/
theorem Within.of_same {key : String} {c c' : Coordinator} (hl : c'.limits = c.limits)
    (ht : c'.cacheTtl = c.cacheTtl) (hc : c'.cache = c.cache) (hr : c'.rows = c.rows) :
    Within key c c' :=
  Within.of_eq hl ht hc (Nat.le_of_eq (by rw [hr]))

/-- What a stage does to the cache and the rows, whatever becomes of the rest. -/
theorem step_within (c : Coordinator) (cancel : Cancel) (s : Stage) {r : Request}
    (h : ∀ r', s.request? = some r' → r' = r) :
    Within (cacheKey r) c (c.step cancel s).2 := by
  cases s with
  | lookup r' =>
    obtain rfl := h r' rfl
    rcases stepLookup_cases c r' with ⟨_, _, _, _, he⟩ | ⟨_, _, _, hw, he⟩
    · simp only [step, he]
      exact Within.of_same rfl rfl rfl rfl
    · simp only [step, he]
      exact hw.trans (Within.of_same rfl rfl rfl rfl)
  | fetching r' =>
    obtain ⟨_, _, _, he, _⟩ := stepFetch_cases c cancel r'
    simp only [step, he]
    exact Within.of_same rfl rfl rfl rfl
  | upserting r' batch =>
    rcases stepUpsert_cases c r' batch with ⟨_, _, hs, he⟩ | ⟨_, _, hs, he⟩
    · simp only [step, he]
      exact Within.of_same rfl rfl rfl hs
    · simp only [step, he]
      exact Within.of_eq rfl rfl rfl (Store.upsert_size hs)
  | reading r' =>
    obtain ⟨_, hs, ⟨_, he⟩ | ⟨_, he⟩ | he⟩ := stepRead_cases c r'
    all_goals
      simp only [step, he]
      exact Within.of_same rfl rfl rfl hs
  | completing r' items total =>
    obtain ⟨_, hs, he | he⟩ := stepComplete_cases c r' items total
    all_goals
      simp only [step, he]
      exact Within.of_same rfl rfl rfl hs
  | caching r' items total all =>
    obtain rfl := h r' rfl
    obtain ⟨_, hw, ⟨_, he⟩ | ⟨_, he | he⟩⟩ := stepCache_cases c r' items total all
    all_goals
      simp only [step, he]
      exact hw.trans (Within.of_same rfl rfl rfl rfl)
  | finished outcome => exact Within.refl _ c

/-- A search never changes what it is about. -/
theorem step_request (c : Coordinator) (cancel : Cancel) (s : Stage) {r : Request}
    (h : (c.step cancel s).1.request? = some r) : s.request? = some r := by
  cases s with
  | lookup r' =>
    rcases stepLookup_cases c r' with ⟨_, _, _, _, he⟩ | ⟨_, _, _, _, he⟩
    · simp [step, he, Stage.request?] at h
    · simpa [step, he, Stage.request?] using h
  | fetching r' =>
    obtain ⟨_, _, _, _, hs | ⟨_, hs⟩ | hs | ⟨_, hs⟩⟩ := stepFetch_cases c cancel r'
    · simp [step, hs, Stage.request?] at h
    · simp [step, hs, Stage.request?] at h
    · simpa [step, hs, Stage.request?] using h
    · simpa [step, hs, Stage.request?] using h
  | upserting r' batch =>
    rcases stepUpsert_cases c r' batch with ⟨_, _, _, he⟩ | ⟨_, _, _, he⟩
    · simp [step, he, Stage.request?] at h
    · simpa [step, he, Stage.request?] using h
  | reading r' =>
    obtain ⟨_, _, ⟨_, he⟩ | ⟨_, he⟩ | he⟩ := stepRead_cases c r'
    · simp [step, he, Stage.request?] at h
    · simpa [step, he, Stage.request?] using h
    · simpa [step, he, Stage.request?] using h
  | completing r' items total =>
    obtain ⟨_, _, he | he⟩ := stepComplete_cases c r' items total
    · simp [step, he, Stage.request?] at h
    · simpa [step, he, Stage.request?] using h
  | caching r' items total all =>
    obtain ⟨_, _, ⟨_, he⟩ | ⟨_, he | he⟩⟩ := stepCache_cases c r' items total all
    all_goals simp [step, he, Stage.request?] at h
  | finished outcome => exact h

theorem run_within (c : Coordinator) (cancel : Cancel) (s : Stage) (n : Nat) {r : Request}
    (h : ∀ r', s.request? = some r' → r' = r) : Within (cacheKey r) c (c.run cancel s n).2 := by
  induction n generalizing c s with
  | zero => exact Within.refl _ c
  | succ n ih =>
    rw [run_succ]
    exact (step_within c cancel s h).trans
      (ih _ _ fun r' hr => h r' (step_request c cancel s hr))

/-- After the batch has been written, the rows stay as they are. -/
theorem step_rows (c : Coordinator) (cancel : Cancel) {s : Stage} (h : s.left ≤ 3) :
    (c.step cancel s).2.rows = c.rows := by
  cases s with
  | lookup r => simp [Stage.left] at h
  | fetching r => simp [Stage.left] at h
  | upserting r batch => simp [Stage.left] at h
  | reading r =>
    obtain ⟨_, hs, ⟨_, he⟩ | ⟨_, he⟩ | he⟩ := stepRead_cases c r
    all_goals
      simp only [step, he]
      exact hs
  | completing r items total =>
    obtain ⟨_, hs, he | he⟩ := stepComplete_cases c r items total
    all_goals
      simp only [step, he]
      exact hs
  | caching r items total all =>
    obtain ⟨_, _, ⟨_, he⟩ | ⟨_, he | he⟩⟩ := stepCache_cases c r items total all
    · simp only [step, he]
    · simp only [step, he, writeFailed]
    · simp only [step, he]
  | finished outcome => rfl

theorem run_rows (c : Coordinator) (cancel : Cancel) {s : Stage} (n : Nat) (h : s.left ≤ 3) :
    (c.run cancel s n).2.rows = c.rows := by
  induction n generalizing c s with
  | zero => rfl
  | succ n ih =>
    have hleft := step_left c cancel s
    rw [run_succ, ih _ (by omega), step_rows c cancel h]

/-! ## Searches that were not in the cache -/

/-- How a search for `r` has ended that was not in the cache: with the response from the rows, and
with all hits in the cache or without an entry, or without a response and without an entry. -/
def Ended (r : Request) (c : Coordinator) : Outcome → Prop
  | .found response .miss => response = c.rows.answer r ∧
      (c.cache.find? (cacheKey r) = none ∨ c.cache.find? (cacheKey r) =
        some { key := cacheKey r, records := c.rows.hits r, expiresAt := c.clock.running + c.ttl })
  | .found _ .hit => False
  | .failed _ => c.cache.find? (cacheKey r) = none
  | .crashed => c.cache.find? (cacheKey r) = none

/-- What holds at every stage of a search for `r` that was not in the cache. -/
def Missed (r : Request) (c : Coordinator) : Stage → Prop
  | .lookup _ => False
  | .fetching r' => r' = r ∧ c.cache.find? (cacheKey r) = none
  | .upserting r' _ => r' = r ∧ c.cache.find? (cacheKey r) = none
  | .reading r' => r' = r ∧ c.cache.find? (cacheKey r) = none
  | .completing r' items total => r' = r ∧ c.cache.find? (cacheKey r) = none ∧
      c.rows.search r = (items, total)
  | .caching r' items total all => r' = r ∧ c.cache.find? (cacheKey r) = none ∧
      c.rows.search r = (items, total) ∧ all = c.rows.hits r
  | .finished outcome => Ended r c outcome

theorem Missed.request {r : Request} {c : Coordinator} {s : Stage} (h : Missed r c s) :
    ∀ r', s.request? = some r' → r' = r := by
  intro r' hr
  cases s with
  | lookup _ => exact absurd h not_false
  | finished _ => cases hr
  | fetching _ => cases hr; exact h.1
  | upserting _ _ => cases hr; exact h.1
  | reading _ => cases hr; exact h.1
  | completing _ _ _ => cases hr; exact h.1
  | caching _ _ _ _ => cases hr; exact h.1

/-- A stage keeps what holds of a search that was not in the cache, if its rows can be counted. -/
theorem Missed.step {r : Request} {c : Coordinator} {s : Stage} (cancel : Cancel)
    (h : Missed r c s) (hfit : c.rows.size ≤ Number.maxCount) :
    Missed r (c.step cancel s).2 (c.step cancel s).1 := by
  cases s with
  | lookup r' => exact absurd h not_false
  | fetching r' =>
    obtain ⟨rfl, hnone⟩ := h
    obtain ⟨_, _, _, hc, hs | ⟨_, hs⟩ | hs | ⟨_, hs⟩⟩ := stepFetch_cases c cancel r'
    · simp only [Coordinator.step, hc, hs]; exact hnone
    · simp only [Coordinator.step, hc, hs]; exact hnone
    · simp only [Coordinator.step, hc, hs]; exact ⟨rfl, hnone⟩
    · simp only [Coordinator.step, hc, hs]; exact ⟨rfl, hnone⟩
  | upserting r' batch =>
    obtain ⟨rfl, hnone⟩ := h
    rcases stepUpsert_cases c r' batch with ⟨_, _, _, he⟩ | ⟨_, _, _, he⟩
    · simp only [Coordinator.step, he]; exact hnone
    · simp only [Coordinator.step, he]; exact ⟨rfl, hnone⟩
  | reading r' =>
    obtain ⟨rfl, hnone⟩ := h
    obtain ⟨store, hs, hcases⟩ := stepRead_cases c r'
    have hrows : ({ c with store } : Coordinator).rows = c.rows := hs
    rcases hcases with ⟨_, he⟩ | ⟨_, he⟩ | he
    · simp only [Coordinator.step, he]; exact hnone
    · simp only [Coordinator.step, he]
      exact ⟨rfl, hnone, by rw [hrows], by rw [hrows]⟩
    · simp only [Coordinator.step, he]
      exact ⟨rfl, hnone, by rw [hrows]⟩
  | completing r' items total =>
    obtain ⟨rfl, hnone, hread⟩ := h
    have htotal : total = (c.rows.hits r').length := (congrArg Prod.snd hread).symm
    obtain ⟨store, hs, hcases⟩ := stepComplete_cases c r' items total
    have hrows : ({ c with store } : Coordinator).rows = c.rows := hs
    rcases hcases with he | he
    · simp only [Coordinator.step, he]
      refine ⟨?_, Or.inl hnone⟩
      rw [show (writeFailed { c with store }).rows = c.rows from hs, Store.answer, hread]
    · simp only [Coordinator.step, he]
      refine ⟨rfl, hnone, by rw [hrows]; exact hread, ?_⟩
      rw [hrows, htotal]
      exact Store.search_whole c.rows r' hfit
  | caching r' items total all =>
    obtain ⟨rfl, hnone, hread, rfl⟩ := h
    obtain ⟨cache, hw, ⟨hput, he⟩ | ⟨hkeep, he | he⟩⟩ :=
      stepCache_cases c r' items total (c.rows.hits r')
    · simp only [Coordinator.step, he, missResponse, Missed, Ended]
      refine ⟨by rw [Store.answer, hread], Or.inr ?_⟩
      rw [hput, hw.ttl]
    · simp only [Coordinator.step, he, missResponse, writeFailed, Missed, Ended]
      exact ⟨by rw [Store.answer, hread], Or.inl (hkeep hnone)⟩
    · simp only [Coordinator.step, he]
      exact hkeep hnone
  | finished outcome => exact h

theorem Missed.run {r : Request} {c : Coordinator} {s : Stage} (cancel : Cancel) (n : Nat)
    (h : Missed r c s) (hfit : (c.run cancel s n).2.rows.size ≤ Number.maxCount) :
    Missed r (c.run cancel s n).2 (c.run cancel s n).1 := by
  induction n generalizing c s with
  | zero => exact h
  | succ n ih =>
    rw [run_succ] at hfit ⊢
    have hrest := (run_within (c.step cancel s).2 cancel (c.step cancel s).1 n
      fun r' hr => h.request r' (step_request c cancel s hr)).size
    have hstep := (step_within c cancel s h.request).size
    exact ih (h.step cancel (by omega)) hfit

/-! ## Whole searches -/

theorem search_within (c : Coordinator) (r : Request) (cancel : Cancel) :
    Within (cacheKey (normalize c.limits r)) c (c.search r cancel).2 :=
  run_within c cancel (.lookup (normalize c.limits r)) maxStages fun _ h => (Option.some.inj h).symm

/-- A search is served from an entry that may still be served, and then changes no entry and no
row, or it is not, and ends as such searches do. -/
theorem search_cases (c : Coordinator) (r : Request) (cancel : Cancel)
    (hfit : (c.search r cancel).2.rows.size ≤ Number.maxCount) :
    (∃ e, c.cache.find? (cacheKey (normalize c.limits r)) = some e ∧
      e.isFresh c.clock.running = true ∧ (c.search r cancel).2.cache = c.cache ∧
      (c.search r cancel).1 = .found (.ofAll e.records (normalize c.limits r)) .hit) ∨
    Ended (normalize c.limits r) (c.search r cancel).2 (c.search r cancel).1 := by
  unfold search at hfit ⊢
  generalize normalize c.limits r = n at hfit ⊢
  simp only [maxStages, run_succ _ _ _ 5, step] at hfit ⊢
  rcases stepLookup_cases c n with ⟨e, _, he, hfresh, hs⟩ | ⟨_, _, hnone, _, hs⟩
  · rw [hs]
    exact Or.inl ⟨e, he, hfresh, rfl, rfl⟩
  · rw [hs] at hfit ⊢
    right
    have hmissed := Missed.run (r := n) (s := .fetching n) cancel 5 ⟨rfl, hnone⟩ hfit
    rw [run_finished _ cancel (.fetching n) (n := 5) (Nat.le_refl _)] at hmissed
    exact hmissed

/-- What follows after three stages leaves the rows. -/
theorem search_rows (c : Coordinator) (r : Request) (cancel : Cancel) :
    (c.search r cancel).2.rows =
      (c.run cancel (.lookup (normalize c.limits r)) 3).2.rows := by
  have hleft := run_left c cancel (.lookup (normalize c.limits r)) 3
  simp only [search, maxStages]
  rw [run_add c cancel (.lookup (normalize c.limits r)) 3 3]
  exact run_rows _ cancel 3 hleft

end Coordinator

end Search

end FeedSearch
