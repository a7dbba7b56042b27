-- What the write to the cache means for the search that makes it. The response
-- is ready before the write, so two searches that differ in their caches, and
-- in whether the complete list could be read, show the same. A write that was
-- not done is counted once, and that is all it leaves.
import FeedSearch.Proofs.CacheLifetimes
import FeedSearch.Proofs.FailedSearches
import FeedSearch.Proofs.LastingIds

namespace FeedSearch

/-! ## The count of failed writes during a fetch -/

namespace Fetch

theorem start_writeErrors (deadline : Time.Span) (q : Query) (m : Member) (f : Field) :
    (start deadline q m f).2.2.metrics.writeErrors = f.metrics.writeErrors := by
  unfold start
  simp only
  split
  · rfl
  · split
    · rfl
    · simp only
      split
      · rfl
      · rfl

theorem startAll_writeErrors (deadline : Time.Span) (q : Query) (members : List Member)
    (f : Field) :
    (startAll deadline q members f).2.2.metrics.writeErrors = f.metrics.writeErrors := by
  induction members generalizing f with
  | nil => rfl
  | cons m rest ih =>
    have hstart := start_writeErrors deadline q m f
    rcases hs : start deadline q m f with ⟨l, m', f'⟩
    rw [hs] at hstart
    simp only [startAll, hs]
    split
    · exact hstart
    · exact (ih f').trans hstart

theorem land_writeErrors (f : Field) (l : Landing) (now : Instant) :
    (land f l now).metrics.writeErrors = f.metrics.writeErrors := by
  unfold land
  split
  · rfl
  · rfl

/-- Whatever the providers do, no write to the cache is counted. -/
theorem Orchestrator.fetchAll_writeErrors (o : Orchestrator) (q : Query) (clock : Clock)
    (metrics : Metrics) :
    (o.fetchAll q clock metrics).metrics.writeErrors = metrics.writeErrors := by
  have hstart := startAll_writeErrors o.deadline q o.members ⟨o.breakers, clock, metrics⟩
  unfold Orchestrator.fetchAll
  simp only
  refine List.foldlRecOn (motive := fun f : Field => f.metrics.writeErrors = metrics.writeErrors)
    _ _ hstart fun f hf l _ => ?_
  rw [land_writeErrors]
  exact hf

end Fetch

namespace Search

open Fetch

/-! ## A store with other outages -/

namespace StoreLink

/-- A read is counted whether or not the store is in reach, and answered only if it is. -/
theorem search_cases (l : StoreLink) (r : Request) :
    (l.isOut .search (l.calls .search + 1) = true ∧
        ∃ e, l.search r = (.error e, (l.call .search).2)) ∨
      (l.isOut .search (l.calls .search + 1) = false ∧
        l.search r = (.ok (l.store.search r), (l.call .search).2)) := by
  by_cases hout : l.isOut .search (l.calls .search + 1) = true
  · exact .inl ⟨hout, by simp [search, call, hout]⟩
  · exact .inr ⟨Bool.eq_false_iff.mpr hout, by simp [search, call, hout]⟩

theorem search_outages {l : StoreLink} {isOut : StoreOperation → Nat → Bool}
    (h : isOut .search (l.calls .search + 1) = l.isOut .search (l.calls .search + 1))
    (r : Request) :
    { l with isOut }.search r = ((l.search r).1, { (l.search r).2 with isOut }) := by
  by_cases hout : l.isOut .search (l.calls .search + 1) = true
  · simp [search, call, hout, h]
  · simp [search, call, hout, h]

theorem upsert_outages {l : StoreLink} {isOut : StoreOperation → Nat → Bool}
    (h : isOut .upsert (l.calls .upsert + 1) = l.isOut .upsert (l.calls .upsert + 1))
    (batch : List Record) :
    { l with isOut }.upsert batch = ((l.upsert batch).1, { (l.upsert batch).2 with isOut }) := by
  by_cases hout : l.isOut .upsert (l.calls .upsert + 1) = true
  · simp [upsert, call, hout, h]
  · cases hu : l.store.upsert batch with
    | error e => simp [upsert, call, hout, h, hu]
    | ok done => simp [upsert, call, hout, h, hu]

theorem upsert_calls (l : StoreLink) (batch : List Record) :
    (l.upsert batch).2.calls .search = l.calls .search := by
  have hcall : (l.call .upsert).2.calls .search = l.calls .search := rfl
  unfold upsert
  split
  · rename_i h
    rw [← hcall, h]
  · rename_i h
    split
    · rw [← hcall, h]
    · rw [← hcall, h]

end StoreLink

namespace Coordinator

/-! ## Coordinators that are alike -/

/-- The coordinator over another cache, and with other outages of its store. -/
def refit (c : Coordinator) (cache : CacheLink) (isOut : StoreOperation → Nat → Bool) :
    Coordinator :=
  { c with cache, store := { c.store with isOut } }

/-- The same but for the cache, the outages of the store, and the count of cache writes that
failed. -/
def Alike (c c' : Coordinator) : Prop :=
  ∃ cache isOut writeErrors,
    c' = { c.refit cache isOut with metrics := { c.metrics with writeErrors } }

variable {c c' c'' : Coordinator} {cancel : Cancel}

theorem Alike.refl (c : Coordinator) : c.Alike c :=
  ⟨c.cache, c.store.isOut, c.metrics.writeErrors, rfl⟩

theorem Alike.symm (h : c.Alike c') : c'.Alike c := by
  obtain ⟨cache, isOut, writeErrors, rfl⟩ := h
  exact ⟨c.cache, c.store.isOut, c.metrics.writeErrors, rfl⟩

theorem Alike.trans (h : c.Alike c') (h' : c'.Alike c'') : c.Alike c'' := by
  obtain ⟨cache, isOut, writeErrors, rfl⟩ := h
  obtain ⟨cache', isOut', writeErrors', rfl⟩ := h'
  exact ⟨cache', isOut', writeErrors', rfl⟩

theorem alike_refit (c : Coordinator) (cache : CacheLink) (isOut : StoreOperation → Nat → Bool) :
    c.Alike (c.refit cache isOut) :=
  ⟨cache, isOut, c.metrics.writeErrors, rfl⟩

/-! ## Stages that do not feel the difference -/

theorem stepLookup_missed {r : Request}
    (h : (c.cache.get (cacheKey r) c.clock.running).1 = none) :
    c.stepLookup r = (.fetching r, { c with
      cache := (c.cache.get (cacheKey r) c.clock.running).2
      metrics := { c.metrics with misses := c.metrics.misses + 1 } }) := by
  rcases hg : c.cache.get (cacheKey r) c.clock.running with ⟨found, cache⟩
  rw [hg] at h
  obtain rfl : found = none := h
  simp only [stepLookup, hg]

theorem afterFetch_refit (c : Coordinator) (cache : CacheLink)
    (isOut : StoreOperation → Nat → Bool) (r : Request) (result : Result) :
    (c.refit cache isOut).afterFetch r result =
      ((c.afterFetch r result).1, (c.afterFetch r result).2.refit cache isOut) := by
  cases result with
  | records fetched =>
    have hscore : (c.refit cache isOut).score fetched =
        ((c.score fetched).1, (c.score fetched).2.refit cache isOut) := rfl
    simp only [afterFetch, hscore]
    split
    · rfl
    · rfl
  | allFailed failures => rfl
  | crashed => rfl

theorem stepFetch_refit (c : Coordinator) (cache : CacheLink)
    (isOut : StoreOperation → Nat → Bool) (r : Request) :
    (c.refit cache isOut).stepFetch cancel r =
      ((c.stepFetch cancel r).1, (c.stepFetch cancel r).2.refit cache isOut) :=
  let run := c.orchestrator.fetchAll (query r cancel) c.clock c.metrics
  afterFetch_refit { c with
    orchestrator := run.orchestrator, clock := run.clock, metrics := run.metrics } cache isOut r
    run.result

theorem stepUpsert_refit {isOut : StoreOperation → Nat → Bool}
    (h : isOut .upsert (c.store.calls .upsert + 1) =
      c.store.isOut .upsert (c.store.calls .upsert + 1))
    (cache : CacheLink) (r : Request) (batch : List Record) :
    (c.refit cache isOut).stepUpsert r batch =
      ((c.stepUpsert r batch).1, (c.stepUpsert r batch).2.refit cache isOut) := by
  have hupsert := StoreLink.upsert_outages h batch
  rcases hu : c.store.upsert batch with ⟨answer, store⟩
  rw [hu] at hupsert
  cases answer <;> simp only [stepUpsert, hu, refit, hupsert]

theorem stepRead_refit {isOut : StoreOperation → Nat → Bool}
    (h : isOut .search (c.store.calls .search + 1) =
      c.store.isOut .search (c.store.calls .search + 1))
    (cache : CacheLink) (r : Request) :
    (c.refit cache isOut).stepRead r =
      ((c.stepRead r).1, (c.stepRead r).2.refit cache isOut) := by
  have hsearch := StoreLink.search_outages h r
  rcases hu : c.store.search r with ⟨answer, store⟩
  rw [hu] at hsearch
  cases answer with
  | error e => simp only [stepRead, hu, refit, hsearch]
  | ok found =>
    simp only [stepRead, hu, refit, hsearch]
    split
    · rfl
    · rfl

/-! ## Stages after the response is ready -/

/-- The stages of a search that has its response and has read all that it will. -/
inductive Answering (r : Request) (items : List Record) (total : Nat) : Stage → Prop
  | caching (all : List Record) : Answering r items total (.caching r items total all)
  | finished : Answering r items total (.finished (missResponse r items total))

/-- A write to the cache would not overflow. -/
def Writable (c : Coordinator) : Prop :=
  c.cache.InMemory → c.clock.running + c.ttl ≤ Cache.lastInstant

variable {r : Request} {items : List Record} {total : Nat} {s : Stage}

theorem Writable.set_ne_overflow (h : c.Writable) (r : Request) (all : List Record) :
    (c.cache.set (cacheKey r) all c.cacheTtl c.clock.running).1 ≠ .overflow := by
  intro hover
  obtain ⟨hmemory, hlate⟩ := (CacheLink.set_overflow_iff _ _ _ _ _).mp hover
  exact absurd (h hmemory) (Nat.not_le.mpr hlate)

/-- A write to the cache leaves the response and everything but the cache and the count. -/
theorem Answering.step (h : Answering r items total s) (cancel : Cancel) (hw : c.Writable) :
    Answering r items total (c.step cancel s).1 ∧ c.Alike (c.step cancel s).2 := by
  cases h with
  | caching all =>
    have hset := hw.set_ne_overflow r all
    rcases hs : c.cache.set (cacheKey r) all c.cacheTtl c.clock.running with ⟨wrote, cache⟩
    rw [hs] at hset
    cases wrote with
    | written =>
      simp only [Coordinator.step, stepCache, hs]
      exact ⟨.finished, cache, _, _, rfl⟩
    | failed =>
      simp only [Coordinator.step, stepCache, hs]
      exact ⟨.finished, cache, _, _, rfl⟩
    | overflow => exact absurd rfl hset
  | finished => exact ⟨.finished, .refl c⟩

/-- A read of the complete list is counted, and leaves the response. -/
theorem stepComplete_answering (c : Coordinator) (r : Request) (items : List Record)
    (total : Nat) : Answering r items total (c.stepComplete r items total).1 ∧
      ({ c with store := (c.store.call .search).2 } : Coordinator).Alike
        (c.stepComplete r items total).2 := by
  rcases c.store.search_cases { r with page := 1, pageSize := total } with
    ⟨_, e, hread⟩ | ⟨_, hread⟩
  · simp only [stepComplete, hread]
    exact ⟨.finished, _, _, _, rfl⟩
  · simp only [stepComplete, hread]
    exact ⟨.caching _, .refl _⟩

/-! ## Two searches in step -/

/-- Two searches, of which the second may have another cache, and may find the store in or out of
reach for its `n`th read alone: they are at one stage, or both have the same response. -/
inductive InStep (n : Nat) : Stage → Coordinator → Stage → Coordinator → Prop
  | together {s : Stage} {c : Coordinator} (cache : CacheLink)
      (isOut : StoreOperation → Nat → Bool)
      (outages : ∀ op k, op ≠ .search ∨ k ≠ n → isOut op k = c.store.isOut op k)
      (next : 3 ≤ s.left → c.store.calls .search + 2 = n) :
      InStep n s c s (c.refit cache isOut)
  | apart {r : Request} {items : List Record} {total : Nat} {s s' : Stage} {c c' : Coordinator}
      (first : Answering r items total s) (second : Answering r items total s')
      (alike : c.Alike c') : InStep n s c s' c'

theorem stepUpsert_calls (c : Coordinator) (r : Request) (batch : List Record) :
    (c.stepUpsert r batch).2.store.calls .search = c.store.calls .search := by
  have hcalls := c.store.upsert_calls batch
  rcases hu : c.store.upsert batch with ⟨answer, store⟩
  rw [hu] at hcalls
  cases answer <;> simpa only [stepUpsert, hu] using hcalls

/-- A stage keeps two searches in step, from the end of the fetch on. -/
theorem InStep.step {n : Nat} {s s' : Stage} (h : InStep n s c s' c') (cancel : Cancel)
    (hleft : s.left ≤ 4) (hw : c.Writable) (hw' : c'.Writable) :
    InStep n (c.step cancel s).1 (c.step cancel s).2 (c'.step cancel s').1
      (c'.step cancel s').2 := by
  cases h with
  | together cache isOut outages next =>
    have hkept := fun op k hk => (outages op k hk).trans
      (congrFun (congrFun (c.step_isOut cancel s) op) k).symm
    have hless := c.step_left cancel s
    cases s with
    | lookup r => simp [Stage.left] at hleft
    | fetching r => simp [Stage.left] at hleft
    | upserting r batch =>
      have hstep : (c.refit cache isOut).step cancel (.upserting r batch) =
          ((c.step cancel (.upserting r batch)).1,
            (c.step cancel (.upserting r batch)).2.refit cache isOut) :=
        stepUpsert_refit (outages .upsert _ (Or.inl (by decide))) cache r batch
      rw [hstep]
      refine .together cache isOut hkept fun _ => ?_
      rw [← next (Nat.le_succ 3)]
      exact congrArg (· + 2) (c.stepUpsert_calls r batch)
    | reading r =>
      have hnext : c.store.calls .search + 2 = n := next (Nat.le_refl 3)
      have hstep : (c.refit cache isOut).step cancel (.reading r) =
          ((c.step cancel (.reading r)).1, (c.step cancel (.reading r)).2.refit cache isOut) :=
        stepRead_refit (outages .search _ (Or.inr (by omega))) cache r
      rw [hstep]
      refine .together cache isOut hkept fun hthree => ?_
      exact absurd (Nat.le_trans hthree hless) (by simp [Stage.left])
    | completing r items total =>
      obtain ⟨hfirst, halike⟩ := c.stepComplete_answering r items total
      obtain ⟨hsecond, halike'⟩ := (c.refit cache isOut).stepComplete_answering r items total
      have hcalled : ({ c with store := (c.store.call .search).2 } : Coordinator).Alike
          { c.refit cache isOut with store := ((c.refit cache isOut).store.call .search).2 } :=
        ⟨cache, isOut, _, rfl⟩
      exact .apart hfirst hsecond (halike.symm.trans (hcalled.trans halike'))
    | caching r items total all =>
      obtain ⟨hfirst, halike⟩ := (Answering.caching all).step cancel hw
      obtain ⟨hsecond, halike'⟩ := (Answering.caching all).step cancel hw'
      exact .apart hfirst hsecond (halike.symm.trans ((c.alike_refit _ _).trans halike'))
    | finished outcome => exact .together cache isOut outages next
  | apart first second alike =>
    obtain ⟨hfirst, halike⟩ := first.step cancel hw
    obtain ⟨hsecond, halike'⟩ := second.step cancel hw'
    exact .apart hfirst hsecond (halike.symm.trans (alike.trans halike'))

theorem step_eq_turn (c : Coordinator) (cancel : Cancel) {s : Stage} (hleft : s.left ≤ 4) :
    c.step cancel s = c.turn .crashed s := by
  cases s with
  | fetching r => simp [Stage.left] at hleft
  | _ => rfl

/-- No time passes between the end of the fetch and the write to the cache. -/
theorem step_clock (c : Coordinator) (cancel : Cancel) {s : Stage} (hleft : s.left ≤ 4) :
    (c.step cancel s).2.clock = c.clock := by
  cases s with
  | lookup r => simp [Stage.left] at hleft
  | fetching r => simp [Stage.left] at hleft
  | upserting r batch =>
    rcases c.stepUpsert_cases r batch with ⟨_, _, _, he⟩ | ⟨_, _, _, he⟩
    all_goals simp only [step, he]
  | reading r =>
    obtain ⟨_, _, ⟨_, he⟩ | ⟨_, he⟩ | he⟩ := c.stepRead_cases r
    all_goals simp only [step, he]
  | completing r items total =>
    obtain ⟨_, _, he | he⟩ := c.stepComplete_cases r items total
    all_goals simp only [step, he, writeFailed]
  | caching r items total all =>
    obtain ⟨_, _, ⟨_, he⟩ | ⟨_, he | he⟩⟩ := c.stepCache_cases r items total all
    all_goals simp only [step, he, writeFailed]
  | finished outcome => rfl

theorem Writable.step (h : c.Writable) (hleft : s.left ≤ 4) : (c.step cancel s).2.Writable := by
  intro hmemory
  rw [c.step_clock cancel hleft]
  rw [c.step_eq_turn cancel hleft] at hmemory ⊢
  rw [turn_ttl]
  exact h ((turn_inMemory c .crashed s).mp hmemory)

theorem InStep.left_le {n : Nat} {s s' : Stage} (h : InStep n s c s' c') (hleft : s.left ≤ 4) :
    s'.left ≤ 4 := by
  cases h with
  | together _ _ _ _ => exact hleft
  | apart first second _ =>
    cases second with
    | caching all => simp [Stage.left]
    | finished => simp [Stage.left]

theorem InStep.run {n : Nat} {s s' : Stage} (h : InStep n s c s' c') (cancel : Cancel)
    (hleft : s.left ≤ 4) (hw : c.Writable) (hw' : c'.Writable) (stages : Nat) :
    InStep n (c.run cancel s stages).1 (c.run cancel s stages).2
      (c'.run cancel s' stages).1 (c'.run cancel s' stages).2 := by
  induction stages generalizing c c' s s' with
  | zero => exact h
  | succ stages ih =>
    rw [run_succ, run_succ]
    have hless := c.step_left cancel s
    exact ih (h.step cancel hleft hw hw') (by omega) (hw.step hleft) (hw'.step (h.left_le hleft))

/-- Two searches in step that are over have ended in the same way. -/
theorem InStep.finished {n : Nat} {outcome outcome' : Outcome}
    (h : InStep n (.finished outcome) c (.finished outcome') c') :
    outcome' = outcome ∧ c.Alike c' := by
  cases h with
  | together cache isOut _ _ => exact ⟨rfl, c.alike_refit cache isOut⟩
  | apart first second alike =>
    cases first
    cases second
    exact ⟨rfl, alike⟩

/-! ## Searches that are not served from the cache -/

/-- A request, brought within its limits, is not in the cache, and the write that may come of it
does not overflow: it is done, or it fails. -/
structure Unserved (c : Coordinator) (r : Request) (cancel : Cancel) : Prop where
  missed : (c.cache.get (cacheKey r) c.clock.running).1 = none
  fits : c.cache.InMemory → (c.fetch r cancel).clock.running + c.ttl ≤ Cache.lastInstant

/-- The coordinator when it has looked for the request in vain. -/
def unfound (c : Coordinator) (r : Request) : Coordinator :=
  { c with
    cache := (c.cache.get (cacheKey r) c.clock.running).2
    metrics := { c.metrics with misses := c.metrics.misses + 1 } }

theorem unfound_refit (c : Coordinator) (cache : CacheLink)
    (isOut : StoreOperation → Nat → Bool) (r : Request) : (c.refit cache isOut).unfound r =
      (c.unfound r).refit (cache.get (cacheKey r) c.clock.running).2 isOut := rfl

/-- A search that is not served from the cache, from its fetch on. -/
theorem Unserved.search_eq (h : c.Unserved (normalize c.limits r) cancel) :
    let fetched := (c.unfound (normalize c.limits r)).stepFetch cancel (normalize c.limits r)
    c.search r cancel =
      (Stage.outcome (fetched.2.run cancel fetched.1 4).1,
        (fetched.2.run cancel fetched.1 4).2) := by
  intro fetched
  have hlookup : c.step cancel (.lookup (normalize c.limits r)) =
      (.fetching (normalize c.limits r), c.unfound (normalize c.limits r)) :=
    stepLookup_missed h.missed
  have hrun : c.run cancel (.lookup (normalize c.limits r)) maxStages =
      fetched.2.run cancel fetched.1 4 := by
    unfold maxStages
    rw [run_succ, hlookup, run_succ]
    rfl
  simp only [search, hrun]

/-- What a fetch leaves of the coordinator. Scoring reads the time of day, and the running clock
stays at the end of the fetch. -/
theorem unfound_fetched (c : Coordinator) (r : Request) (cancel : Cancel) :
    ∃ clock, clock.running = (c.fetch r cancel).clock.running ∧
      ((c.unfound r).stepFetch cancel r).2 = { c.unfound r with
        orchestrator := (c.fetch r cancel).orchestrator
        clock
        metrics := (c.fetch r cancel).metrics } := by
  obtain ⟨clock, hclock, he, _⟩ := afterFetch_cases { c.unfound r with
    orchestrator := (c.fetch r cancel).orchestrator
    clock := (c.fetch r cancel).clock
    metrics := (c.fetch r cancel).metrics } r (c.fetch r cancel).result
  exact ⟨clock, hclock, he⟩

theorem Unserved.writable (h : c.Unserved r cancel) :
    ((c.unfound r).stepFetch cancel r).2.Writable := by
  obtain ⟨clock, hclock, he⟩ := c.unfound_fetched r cancel
  rw [he]
  intro hmemory
  have hfits := h.fits ((CacheLink.get_inMemory _ _ _).mp hmemory)
  have httl : (c.unfound r).cache.ttlOf c.cacheTtl = c.ttl := CacheLink.get_ttlOf _ _ _ _
  simp only [ttl]
  rw [hclock, show (c.unfound r).cacheTtl = c.cacheTtl from rfl, httl]
  exact hfits

/-! ## The count of writes that were not done -/

end Coordinator

namespace CacheLink

theorem set_written_inMemory (l : CacheLink) (key : String) (records : List Record)
    (ttl : Time.Span) (now : Instant) (h : (l.set key records ttl now).1 = .written) :
    l.InMemory := by
  cases l with
  | memory cache => trivial
  | broken => cases h

theorem set_failed_iff (l : CacheLink) (key : String) (records : List Record) (ttl : Time.Span)
    (now : Instant) : (l.set key records ttl now).1 = .failed ↔ ¬ l.InMemory := by
  cases l with
  | memory cache =>
    rw [set_memory]
    by_cases hfits : (cache.set key records ttl now).1 = true
    · simp [hfits, InMemory]
    · simp [hfits, InMemory]
  | broken => simp [set, InMemory]

end CacheLink

namespace Coordinator

variable {c now : Coordinator} {r : Request} {s : Stage} {cancel : Cancel}

/-- The complete list for a page is at hand: it is the page itself, or the second read of a search
that starts now finds the store in reach. -/
def Completes (c : Coordinator) (r : Request) (items : List Record) (total : Nat) : Prop :=
  coversAll r items total = true ∨ c.store.isOut .search (c.store.calls .search + 2) = false

/-- How a search that starts with `c`, and is not served from the cache, leaves the cache and the
count of writes that failed. A response is stored exactly if the complete list is at hand and the
cache works, and else the count grows by one. -/
def Counted (c : Coordinator) (r : Request) (now : Coordinator) : Outcome → Prop
  | .found response _ =>
    ((now.cache.find? (cacheKey r)).isSome ↔
      c.cache.InMemory ∧ c.Completes r response.items response.total) ∧
    now.metrics.writeErrors =
      c.metrics.writeErrors + if (now.cache.find? (cacheKey r)).isSome then 0 else 1
  | _ => now.cache.find? (cacheKey r) = none ∧ now.metrics.writeErrors = c.metrics.writeErrors

theorem Counted.of_stored {response : Response} {status : CacheStatus}
    (h : c.Counted r now (.found response status))
    (hstored : c.cache.InMemory ∧ c.Completes r response.items response.total) :
    now.metrics.writeErrors = c.metrics.writeErrors := by
  have hcount := h.2
  rwa [if_pos (h.1.mpr hstored)] at hcount

theorem Counted.of_not_stored {response : Response} {status : CacheStatus}
    (h : c.Counted r now (.found response status))
    (hnot : ¬ (c.cache.InMemory ∧ c.Completes r response.items response.total)) :
    now.metrics.writeErrors = c.metrics.writeErrors + 1 := by
  have hcount := h.2
  rwa [if_neg fun hsome => hnot (h.1.mp hsome)] at hcount

/-- Nothing has been written to the cache or counted since a search started with `c`. -/
structure Pending (c : Coordinator) (r : Request) (now : Coordinator) : Prop where
  unwritten : now.cache.find? (cacheKey r) = none
  uncounted : now.metrics.writeErrors = c.metrics.writeErrors
  inMemory : now.cache.InMemory ↔ c.cache.InMemory
  outages : now.store.isOut = c.store.isOut

/-- What holds of the count at every stage from the end of the fetch on. -/
def Tallied (c : Coordinator) (r : Request) (now : Coordinator) : Stage → Prop
  | .lookup _ => False
  | .fetching _ => False
  | .upserting r' _ => r' = r ∧ c.Pending r now ∧ now.store.calls .search = c.store.calls .search
  | .reading r' => r' = r ∧ c.Pending r now ∧ now.store.calls .search = c.store.calls .search
  | .completing r' items total => r' = r ∧ c.Pending r now ∧
      now.store.calls .search = c.store.calls .search + 1 ∧ coversAll r items total = false
  | .caching r' items total _ => r' = r ∧ c.Pending r now ∧ c.Completes r items total
  | .finished outcome => c.Counted r now outcome

theorem Pending.of_store (h : c.Pending r now) {store : StoreLink}
    (hout : store.isOut = now.store.isOut) : c.Pending r { now with store } :=
  ⟨h.unwritten, h.uncounted, h.inMemory, hout.trans h.outages⟩

theorem Tallied.upsert {r' : Request} {batch : List Record}
    (h : c.Tallied r now (.upserting r' batch)) :
    c.Tallied r (now.stepUpsert r' batch).2 (now.stepUpsert r' batch).1 := by
  obtain ⟨rfl, hpending, hcalls⟩ := h
  have hout := now.store.upsert_isOut batch
  have hkept := now.store.upsert_calls batch
  rcases hu : now.store.upsert batch with ⟨answer, store⟩
  rw [hu] at hout hkept
  cases answer with
  | error e =>
    simp only [stepUpsert, hu]
    exact ⟨hpending.unwritten, hpending.uncounted⟩
  | ok ids =>
    simp only [stepUpsert, hu]
    exact ⟨rfl, hpending.of_store hout, hkept.trans hcalls⟩

theorem Tallied.read {r' : Request} (h : c.Tallied r now (.reading r')) :
    c.Tallied r (now.stepRead r').2 (now.stepRead r').1 := by
  obtain ⟨rfl, hpending, hcalls⟩ := h
  rcases now.store.search_cases r' with ⟨_, e, hread⟩ | ⟨_, hread⟩
  · simp only [stepRead, hread]
    exact ⟨hpending.unwritten, hpending.uncounted⟩
  · simp only [stepRead, hread]
    split
    · rename_i hall
      exact ⟨rfl, hpending.of_store rfl, Or.inl hall⟩
    · rename_i hpart
      exact ⟨rfl, hpending.of_store rfl, congrArg (· + 1) hcalls, Bool.eq_false_iff.mpr hpart⟩

/-- If the second read finds the store out of reach, nothing is written, and this is counted. -/
theorem Tallied.complete {r' : Request} {items : List Record} {total : Nat}
    (h : c.Tallied r now (.completing r' items total)) :
    c.Tallied r (now.stepComplete r' items total).2 (now.stepComplete r' items total).1 := by
  obtain ⟨rfl, hpending, hcalls, hpart⟩ := h
  have hsecond : now.store.isOut .search (now.store.calls .search + 1) =
      c.store.isOut .search (c.store.calls .search + 2) := by rw [hpending.outages, hcalls]
  rcases now.store.search_cases { r' with page := 1, pageSize := total } with
    ⟨hout, e, hread⟩ | ⟨hin, hread⟩
  · have hnot : ¬ c.Completes r' items total := by simp [Completes, hpart, ← hsecond, hout]
    simp only [stepComplete, hread, missResponse, writeFailed, Tallied, Counted]
    rw [hpending.unwritten, hpending.uncounted]
    exact ⟨⟨fun hsome => by simp at hsome, fun hstored => absurd hstored.2 hnot⟩, rfl⟩
  · simp only [stepComplete, hread]
    exact ⟨rfl, hpending.of_store rfl, Or.inr (hsecond.symm.trans hin)⟩

theorem Tallied.cache {r' : Request} {items all : List Record} {total : Nat}
    (h : c.Tallied r now (.caching r' items total all)) :
    c.Tallied r (now.stepCache r' items total all).2 (now.stepCache r' items total all).1 := by
  obtain ⟨rfl, hpending, hcomplete⟩ := h
  have hwritten := now.cache.set_written (cacheKey r') all now.cacheTtl now.clock.running
  have hnot := now.cache.set_not_written (cacheKey r') all now.cacheTtl now.clock.running
  have hmemory := now.cache.set_written_inMemory (cacheKey r') all now.cacheTtl now.clock.running
  have hbroken := now.cache.set_failed_iff (cacheKey r') all now.cacheTtl now.clock.running
  rcases hs : now.cache.set (cacheKey r') all now.cacheTtl now.clock.running with ⟨wrote, cache⟩
  rw [hs] at hwritten hnot hmemory hbroken
  cases wrote with
  | written =>
    have hstored : c.cache.InMemory ∧ c.Completes r' items total :=
      ⟨hpending.inMemory.mp (hmemory rfl), hcomplete⟩
    simp only [stepCache, hs, missResponse, Tallied, Counted]
    rw [hwritten rfl, hpending.uncounted]
    exact ⟨⟨fun _ => hstored, fun _ => rfl⟩, rfl⟩
  | failed =>
    have hnowhere : ¬ c.cache.InMemory := fun hin => hbroken.mp rfl (hpending.inMemory.mpr hin)
    simp only [stepCache, hs, missResponse, writeFailed, Tallied, Counted]
    rw [hnot (by simp) hpending.unwritten, hpending.uncounted]
    exact ⟨⟨fun hsome => by simp at hsome, fun hstored => absurd hstored.1 hnowhere⟩, rfl⟩
  | overflow =>
    simp only [stepCache, hs]
    exact ⟨hnot (by simp) hpending.unwritten, hpending.uncounted⟩

theorem Tallied.step (h : c.Tallied r now s) (cancel : Cancel) :
    c.Tallied r (now.step cancel s).2 (now.step cancel s).1 := by
  cases s with
  | lookup r' => exact absurd h not_false
  | fetching r' => exact absurd h not_false
  | upserting r' batch => exact h.upsert
  | reading r' => exact h.read
  | completing r' items total => exact h.complete
  | caching r' items total all => exact h.cache
  | finished outcome => exact h

theorem Tallied.run (h : c.Tallied r now s) (cancel : Cancel) (n : Nat) :
    c.Tallied r (now.run cancel s n).2 (now.run cancel s n).1 := by
  induction n generalizing now s with
  | zero => exact h
  | succ n ih =>
    rw [run_succ]
    exact ih (h.step cancel)

theorem Unserved.tallied (h : c.Unserved r cancel) :
    c.Tallied r ((c.unfound r).stepFetch cancel r).2 ((c.unfound r).stepFetch cancel r).1 := by
  obtain ⟨clock, _, he⟩ := c.unfound_fetched r cancel
  have hpending : c.Pending r ((c.unfound r).stepFetch cancel r).2 := by
    rw [he]
    exact ⟨(CacheLink.get_none h.missed).1, Orchestrator.fetchAll_writeErrors _ _ _ _,
      CacheLink.get_inMemory _ _ _, rfl⟩
  have hcalls : ((c.unfound r).stepFetch cancel r).2.store.calls .search =
      c.store.calls .search := by
    rw [he]
    rfl
  obtain ⟨_, _, _, _, hs | ⟨_, hs⟩ | hs | ⟨_, hs⟩⟩ := (c.unfound r).stepFetch_cases cancel r
  · rw [hs]
    exact ⟨hpending.unwritten, hpending.uncounted⟩
  · rw [hs]
    exact ⟨hpending.unwritten, hpending.uncounted⟩
  · rw [hs]
    exact ⟨rfl, hpending, hcalls⟩
  · rw [hs]
    exact ⟨rfl, hpending, hcalls⟩

theorem Unserved.counted (h : c.Unserved (normalize c.limits r) cancel) :
    c.Counted (normalize c.limits r) (c.search r cancel).2 (c.search r cancel).1 := by
  have htallied := h.tallied.run cancel 4
  have hleft : ((c.unfound (normalize c.limits r)).stepFetch cancel (normalize c.limits r)).1.left
      ≤ 4 := step_left (c.unfound (normalize c.limits r)) cancel (.fetching _)
  rw [run_finished _ cancel _ hleft] at htallied
  rw [h.search_eq]
  exact htallied

/-- Two searches that are not served from their caches are in step when their fetches are over. -/
theorem fetched_inStep (c : Coordinator) (r : Request) (cancel : Cancel) (cache : CacheLink)
    (isOut : StoreOperation → Nat → Bool)
    (houtages : ∀ op n, op ≠ .search ∨ n ≠ c.store.calls .search + 2 →
      isOut op n = c.store.isOut op n) :
    let fetched := (c.unfound r).stepFetch cancel r
    let fetched' := ((c.refit cache isOut).unfound r).stepFetch cancel r
    InStep (c.store.calls .search + 2) fetched.1 fetched.2 fetched'.1 fetched'.2 := by
  intro fetched fetched'
  have hfetched' : fetched' = (fetched.1,
      fetched.2.refit (cache.get (cacheKey r) c.clock.running).2 isOut) := by
    simp only [fetched', unfound_refit]
    exact stepFetch_refit _ _ _ _
  obtain ⟨clock, _, he⟩ := c.unfound_fetched r cancel
  have hstore : fetched.2.store = c.store := by
    simp only [fetched, he]
    rfl
  rw [hfetched']
  refine .together _ isOut ?_ fun _ => ?_
  · rw [hstore]
    exact houtages
  · rw [hstore]

/-! ## The law -/

/-- Two searches for one request, with the same providers and the same store, neither of which is
served from its cache. The second may have any other cache, and may find the store in reach or out
of reach for its second read, that of the complete list. They end in the same way, with the same
response if there is one, and leave the same rows and the same of all else but for the cache and
the count of cache writes that failed. Each of them counts one such write exactly if it has a
response and has not stored the complete list. -/
theorem a_write_to_the_cache_never_shows (c : Coordinator) (r : Request) (cancel : Cancel)
    (cache : CacheLink) (isOut : StoreOperation → Nat → Bool)
    (houtages : ∀ op n, op ≠ .search ∨ n ≠ c.store.calls .search + 2 →
      isOut op n = c.store.isOut op n)
    (h : c.Unserved (normalize c.limits r) cancel)
    (h' : (c.refit cache isOut).Unserved (normalize c.limits r) cancel) :
    let r' := normalize c.limits r
    let c' := c.refit cache isOut
    (c'.search r cancel).1 = (c.search r cancel).1 ∧
    (c'.search r cancel).2.rows = (c.search r cancel).2.rows ∧
    (c.search r cancel).2.Alike (c'.search r cancel).2 ∧
    c.Counted r' (c.search r cancel).2 (c.search r cancel).1 ∧
    c'.Counted r' (c'.search r cancel).2 (c'.search r cancel).1 := by
  intro r' c'
  have hleft : ((c.unfound r').stepFetch cancel r').1.left ≤ 4 :=
    step_left (c.unfound r') cancel (.fetching r')
  have hstart := c.fetched_inStep r' cancel cache isOut houtages
  have hend := hstart.run cancel hleft h.writable h'.writable 4
  rw [run_finished _ cancel _ hleft, run_finished _ cancel _ (hstart.left_le hleft)] at hend
  obtain ⟨houtcome, halike⟩ := hend.finished
  have hsearch' : c'.search r cancel = _ := h'.search_eq
  have hcounted := h.counted
  have hcounted' : c'.Counted r' (c'.search r cancel).2 (c'.search r cancel).1 := h'.counted
  have hboth : (c'.search r cancel).1 = (c.search r cancel).1 ∧
      (c.search r cancel).2.Alike (c'.search r cancel).2 := by
    rw [h.search_eq, hsearch']
    exact ⟨houtcome, halike⟩
  refine ⟨hboth.1, ?_, hboth.2, hcounted, hcounted'⟩
  obtain ⟨_, _, _, he⟩ := hboth.2
  rw [he]
  rfl

/-- A coordinator over a provider of one note, with an empty cache. -/
def woods : Coordinator :=
  { unreadable with store := .reliable .empty, cache := .memory .standard }

/-- The store is out of reach for every second read. -/
def outForSecondRead (op : StoreOperation) (n : Nat) : Bool := op == .search && n == 2

/-- The coordinator when the complete list cannot be read. -/
def blindWoods : Coordinator := woods.refit (.memory .standard) outForSecondRead

/-- The coordinator over a cache that cannot be written. -/
def brokenWoods : Coordinator := woods.refit .broken woods.store.isOut

/-- The page after the only one. -/
def pastTheEnd : Request := { forests with page := 2 }

/-- The complete list is cached, or cannot be read, or cannot be written: the page is the same, and
the last two are counted. -/
theorem a_page_is_shown_whether_or_not_its_list_is_kept :
    (woods.search pastTheEnd .never).1 = .found ⟨[], 1, 2, 20, 1⟩ .miss ∧
    (blindWoods.search pastTheEnd .never).1 = (woods.search pastTheEnd .never).1 ∧
    (brokenWoods.search pastTheEnd .never).1 = (woods.search pastTheEnd .never).1 ∧
    (woods.search pastTheEnd .never).2.metrics.writeErrors = 0 ∧
    (blindWoods.search pastTheEnd .never).2.metrics.writeErrors = 1 ∧
    (brokenWoods.search pastTheEnd .never).2.metrics.writeErrors = 1 := by
  have hwoods : woods.Unserved (normalize woods.limits pastTheEnd) .never :=
    ⟨by decide +kernel, fun _ => by decide +kernel⟩
  have hblind : blindWoods.Unserved (normalize woods.limits pastTheEnd) .never :=
    ⟨by decide +kernel, fun _ => by decide +kernel⟩
  have hbroken : brokenWoods.Unserved (normalize woods.limits pastTheEnd) .never :=
    ⟨rfl, fun hmemory => hmemory.elim⟩
  have hagree : ∀ op n, op ≠ .search ∨ n ≠ woods.store.calls .search + 2 →
      outForSecondRead op n = woods.store.isOut op n := by
    intro op n hother
    rcases hother with hop | hn
    · simp [outForSecondRead, hop, woods, StoreLink.reliable]
    · have hsecond : n ≠ 2 := hn
      simp [outForSecondRead, hsecond, woods, StoreLink.reliable]
  have hfound : (woods.search pastTheEnd .never).1 = .found ⟨[], 1, 2, 20, 1⟩ .miss := by
    decide +kernel
  obtain ⟨hsame, _, _, hkept, hunread⟩ := a_write_to_the_cache_never_shows woods pastTheEnd .never
    (.memory .standard) outForSecondRead hagree hwoods hblind
  obtain ⟨hsame', _, _, _, hunwritten⟩ := a_write_to_the_cache_never_shows woods pastTheEnd .never
    .broken woods.store.isOut (fun _ _ _ => rfl) hwoods hbroken
  rw [hfound] at hkept
  rw [hsame, hfound] at hunread
  rw [hsame', hfound] at hunwritten
  have hnot : ¬ blindWoods.Completes (normalize woods.limits pastTheEnd) [] 1 := by
    rintro (hcovers | hin)
    · exact absurd hcovers (by decide +kernel)
    · exact absurd hin (by decide +kernel)
  refine ⟨hfound, hsame, hsame', ?_, ?_, ?_⟩
  · exact hkept.of_stored ⟨trivial, Or.inr rfl⟩
  · exact hunread.of_not_stored fun hstored => hnot hstored.2
  · exact hunwritten.of_not_stored fun hstored => hstored.1

end Coordinator

end Search

end FeedSearch
