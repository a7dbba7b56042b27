-- How long the entries of the cache live. Settings put a standard time to live
-- in the place of zero and take every other one as it is, so an entry may be
-- due to expire after the last time that the clock can hold. The search that
-- writes such an entry crashes; no other write to the cache ends a search so.
import FeedSearch.Proofs.CoherentSettings
import FeedSearch.Proofs.ConcurrentSearches

namespace FeedSearch

/-! ## Settings in force -/

namespace Config.Settings

theorem Accepted.ttlSeconds_ne_zero {s : Settings} (h : s.Accepted) : s.cache.ttlSeconds ≠ 0 :=
  UInt64.pos_iff_ne_zero.mp h.coherent.ttl

end Config.Settings

namespace Search

open Fetch

/-! ## Writes that overflow -/

namespace CacheLink

def InMemory : CacheLink → Prop
  | .memory _ => True
  | .broken => False

theorem get_inMemory (l : CacheLink) (key : String) (now : Instant) :
    (l.get key now).2.InMemory ↔ l.InMemory := by
  cases l <;> rfl

theorem set_inMemory (l : CacheLink) (key : String) (records : List Record) (ttl : Time.Span)
    (now : Instant) : (l.set key records ttl now).2.InMemory ↔ l.InMemory := by
  cases l <;> rfl

/-- A write overflows exactly if the clock cannot hold the time at which its entry expires. -/
theorem set_overflow_iff (l : CacheLink) (key : String) (records : List Record) (ttl : Time.Span)
    (now : Instant) : (l.set key records ttl now).1 = .overflow ↔
      l.InMemory ∧ Cache.lastInstant < now + l.ttlOf ttl := by
  cases l with
  | broken => simp [set, InMemory]
  | memory cache =>
    have hexpires : (cache.written key records ttl now).expiresAt =
        now + (memory cache).ttlOf ttl := rfl
    rw [set_memory, Cache.set_eq, hexpires]
    by_cases hfits : now + (memory cache).ttlOf ttl ≤ Cache.lastInstant
    · simp [hfits, Nat.not_lt.mpr hfits]
    · simp [hfits, InMemory, Nat.lt_of_not_le hfits]

end CacheLink

/-! ## Turns -/

namespace Coordinator

/-- The cache is in memory, and what is written to it lives for so many nanoseconds. -/
structure Keeps (life : Nat) (c : Coordinator) : Prop where
  inMemory : c.cache.InMemory
  ttl : c.ttl = life

theorem turn_inMemory (c : Coordinator) (result : Result) (s : Stage) :
    (c.turn result s).2.cache.InMemory ↔ c.cache.InMemory := by
  cases s with
  | lookup r =>
    have hget := c.cache.get_inMemory (cacheKey r) c.clock.running
    rcases hg : c.cache.get (cacheKey r) c.clock.running with ⟨found, cache⟩
    rw [hg] at hget
    cases found <;> simpa only [turn, step, stepLookup, hg] using hget
  | fetching r =>
    obtain ⟨_, _, he, _⟩ := c.afterFetch_cases r result
    simp only [turn, he]
  | upserting r batch =>
    rcases c.stepUpsert_cases r batch with ⟨_, _, _, he⟩ | ⟨_, _, _, he⟩
    all_goals simp only [turn, step, he]
  | reading r =>
    obtain ⟨_, _, ⟨_, he⟩ | ⟨_, he⟩ | he⟩ := c.stepRead_cases r
    all_goals simp only [turn, step, he]
  | completing r items total =>
    obtain ⟨_, _, he | he⟩ := c.stepComplete_cases r items total
    all_goals simp only [turn, step, he, writeFailed]
  | caching r items total all =>
    have hset := c.cache.set_inMemory (cacheKey r) all c.cacheTtl c.clock.running
    rcases hs : c.cache.set (cacheKey r) all c.cacheTtl c.clock.running with ⟨wrote, cache⟩
    rw [hs] at hset
    cases wrote <;> simpa only [turn, step, stepCache, hs, writeFailed] using hset
  | finished outcome => exact Iff.rfl

theorem turn_ttl (c : Coordinator) (result : Result) (s : Stage) :
    (c.turn result s).2.ttl = c.ttl := by
  unfold turn
  split
  · rename_i r
    obtain ⟨_, _, he, _⟩ := c.afterFetch_cases r result
    rw [he]
    rfl
  · have hwithin := step_within c .never s (r := s.request?.getD default)
      fun r' hr => by rw [hr, Option.getD_some]
    exact hwithin.ttl

theorem Keeps.turn {life : Nat} {c : Coordinator} (h : c.Keeps life) (result : Result)
    (s : Stage) : (c.turn result s).2.Keeps life :=
  ⟨(c.turn_inMemory result s).mpr h.inMemory, (c.turn_ttl result s).trans h.ttl⟩

/-- A write to the cache crashes if it overflows, and else ends the search with its response. -/
theorem stepCache_outcome (c : Coordinator) (r : Request) (items : List Record) (total : Nat)
    (all : List Record) : (c.stepCache r items total all).1 =
      .finished (if (c.cache.set (cacheKey r) all c.cacheTtl c.clock.running).1 = .overflow
        then .crashed else missResponse r items total) := by
  rcases hs : c.cache.set (cacheKey r) all c.cacheTtl c.clock.running with ⟨wrote, cache⟩
  cases wrote <;> simp [stepCache, hs]

/-- A turn of a search that is not over ends in a crash if the providers have crashed, or if it is
a write that overflows. -/
theorem turn_crashed (c : Coordinator) (result : Result) {s : Stage} (hs : s.left ≠ 0) :
    (c.turn result s).1 = .finished .crashed ↔
      (∃ r, s = .fetching r) ∧ result = .crashed ∨
      (∃ r items total all, s = .caching r items total all) ∧
        c.cache.InMemory ∧ Cache.lastInstant < c.clock.running + c.ttl := by
  cases s with
  | lookup r =>
    rcases c.stepLookup_cases r with ⟨_, _, _, _, he⟩ | ⟨_, _, _, _, he⟩
    all_goals simp [turn, step, he]
  | fetching r =>
    cases result with
    | records fetched =>
      simp only [turn, afterFetch]
      split <;> simp
    | allFailed failures => simp [turn, afterFetch]
    | crashed => simp [turn, afterFetch]
  | upserting r batch =>
    rcases c.stepUpsert_cases r batch with ⟨_, _, _, he⟩ | ⟨_, _, _, he⟩
    all_goals simp [turn, step, he]
  | reading r =>
    obtain ⟨_, _, ⟨_, he⟩ | ⟨_, he⟩ | he⟩ := c.stepRead_cases r
    all_goals simp [turn, step, he]
  | completing r items total =>
    obtain ⟨_, _, he | he⟩ := c.stepComplete_cases r items total
    all_goals simp [turn, step, he, missResponse]
  | caching r items total all =>
    have hover := c.cache.set_overflow_iff (cacheKey r) all c.cacheTtl c.clock.running
    simp only [turn, step, stepCache_outcome]
    by_cases h : (c.cache.set (cacheKey r) all c.cacheTtl c.clock.running).1 = .overflow
    · rw [if_pos h]
      exact ⟨fun _ => Or.inr ⟨⟨_, _, _, _, rfl⟩, hover.mp h⟩, fun _ => rfl⟩
    · rw [if_neg h]
      refine ⟨fun he => by simp [missResponse] at he, ?_⟩
      rintro (⟨⟨_, he⟩, _⟩ | ⟨_, hlate⟩)
      · cases he
      · exact absurd (hover.mpr hlate) h
  | finished outcome => exact absurd rfl hs

/-- A write whose entry expires while the clock can still hold the time ends the search with its
response. -/
theorem turn_fits (c : Coordinator) (result : Result) (r : Request) (items : List Record)
    (total : Nat) (all : List Record) (h : c.clock.running + c.ttl ≤ Cache.lastInstant) :
    (c.turn result (.caching r items total all)).1 = .finished (missResponse r items total) := by
  have hfits : (c.cache.set (cacheKey r) all c.cacheTtl c.clock.running).1 ≠ .overflow := by
    rw [Ne, CacheLink.set_overflow_iff]
    exact fun hover => Nat.not_lt.mpr h hover.2
  simp only [turn, step, stepCache_outcome, if_neg hfits]

end Coordinator

/-! ## Runs -/

/-- Whatever happens to a crowd of searches, what is written to its cache lives as long. -/
theorem Crowd.play_keeps {life : Nat} {w : Crowd} (h : w.shared.Keeps life) (acts : List Act) :
    (w.play acts).shared.Keeps life := by
  induction acts generalizing w with
  | nil => exact h
  | cons a rest ih =>
    refine ih ?_
    cases a with
    | start r => exact h
    | turn number result =>
      rcases hsearch : w.searches[number]? with _ | search
      · simpa only [Crowd.act, hsearch] using h
      · simpa only [Crowd.act, hsearch] using h.turn result search.stage
    | change orchestrator clock metrics => exact ⟨h.inMemory, h.ttl⟩

end Search

/-! ## The law -/

theorem Config.Settings.Accepted.coordinator_keeps {s : Settings} (hs : s.Accepted)
    (outside : Feed.Surroundings) (clock : Clock) :
    (s.coordinator outside clock).Keeps (Time.nanosPerSecond * s.cache.ttlSeconds.toNat) := by
  have hzero : s.cacheTtl.isZero = false := by
    simp [cacheTtl, Time.Span.isZero, Time.Span.ofSeconds, hs.ttlSeconds_ne_zero]
  refine ⟨trivial, ?_⟩
  show (Cache.effectiveTtl (.empty s.cacheTtl s.cache.maxEntries) s.cacheTtl).toNanos = _
  rw [Cache.effectiveTtl, hzero]
  rfl

namespace Search

open Fetch

/-- On a coordinator of accepted settings, however many searches take turns, a search crashes only
with its providers or where the entry that it writes would expire after the last time that the clock
can hold. Where the clock can hold it, the write ends the search with its response. -/
theorem a_search_crashes_where_its_entry_would_outlive_the_clock {s : Config.Settings}
    (hs : s.Accepted) (outside : Feed.Surroundings) (clock : Clock) (acts : List Act) :
    let w := (Crowd.of (s.coordinator outside clock)).play acts
    let expiry := w.shared.clock.running + Time.nanosPerSecond * s.cache.ttlSeconds.toNat
    ∀ search ∈ w.searches, search.stage.left ≠ 0 → ∀ result,
      ((w.shared.turn result search.stage).1 = .finished .crashed ↔
        (∃ r, search.stage = .fetching r) ∧ result = .crashed ∨
        (∃ r items total all, search.stage = .caching r items total all) ∧
          Cache.lastInstant < expiry) ∧
      ∀ r items total all, search.stage = .caching r items total all →
        expiry ≤ Cache.lastInstant →
        (w.shared.turn result search.stage).1 =
          .finished (Coordinator.missResponse r items total) := by
  intro w expiry search _ hleft result
  have hkeeps : w.shared.Keeps (Time.nanosPerSecond * s.cache.ttlSeconds.toNat) :=
    Crowd.play_keeps (hs.coordinator_keeps outside clock) acts
  have hcrash := w.shared.turn_crashed result hleft
  simp only [hkeeps.inMemory, hkeeps.ttl, true_and] at hcrash
  refine ⟨hcrash, fun r items total all hstage hfits => ?_⟩
  rw [hstage]
  exact w.shared.turn_fits result r items total all (hkeeps.ttl.symm ▸ hfits)

/-! ## A time to live that is too long -/

/-- The longest time to live that a text can say with a signed number. -/
def endless : String := "[cache]\nttl_secs = 9223372036854775807\n"

def endlessSettings : Config.Settings :=
  { Config.Settings.standard with cache := ⟨9223372036854775807, 1000⟩ }

/-- A coordinator of these settings, so many seconds after the start of its clock. -/
def endlessAt (seconds : Nat) : Coordinator :=
  endlessSettings.coordinator { files := .ofTable [], web := Feed.noWeb }
    ⟨seconds * Time.nanosPerSecond, ⟨0, 0⟩⟩

theorem endless_accepted : Config.Settings.ofText endless = .ok endlessSettings := by
  decide +kernel

/-- The settings are accepted, and a second after the start of the clock they crash a search. -/
theorem an_accepted_time_to_live_crashes_a_search :
    Config.Settings.ofText endless = .ok endlessSettings ∧ endlessSettings.providers = [] ∧
      ((endlessAt 1).search (.ofQuery "x") .never).1 = .crashed :=
  ⟨endless_accepted, rfl, by decide +kernel⟩

deriving instance DecidableEq for Running

/-- A search without providers, up to the write of its results. -/
def emptyHanded : List Act :=
  [.start (.ofQuery "x"), .turn 0 (.records []), .turn 0 (.records []), .turn 0 (.records [])]

/-- The search when it comes to the write. -/
def aboutToWrite : Running :=
  ⟨0, 2, 2, .caching (normalize .standard (.ofQuery "x")) [] 0 []⟩

/-- The entry would expire with the last second of the clock, and fits at its very start alone. -/
theorem an_endless_entry_fits_the_start_of_the_clock_alone :
    (((Crowd.of (endlessAt 0)).play emptyHanded).shared.turn .crashed aboutToWrite.stage).1 =
        .finished (Coordinator.missResponse (normalize .standard (.ofQuery "x")) [] 0) ∧
      (((Crowd.of (endlessAt 1)).play emptyHanded).shared.turn .crashed aboutToWrite.stage).1 =
        .finished .crashed := by
  have hat := fun seconds hmem => a_search_crashes_where_its_entry_would_outlive_the_clock
    (.ofText endless endless_accepted) { files := .ofTable [], web := Feed.noWeb }
    ⟨seconds * Time.nanosPerSecond, ⟨0, 0⟩⟩ emptyHanded aboutToWrite hmem (by decide) .crashed
  have hstart : ((Crowd.of (endlessAt 0)).play emptyHanded).searches = [aboutToWrite] := by
    decide +kernel
  have hlater : ((Crowd.of (endlessAt 1)).play emptyHanded).searches = [aboutToWrite] := by
    decide +kernel
  refine ⟨(hat 0 (hstart ▸ .head _)).2 _ _ _ _ rfl ?_,
    (hat 1 (hlater ▸ .head _)).1.mpr (Or.inr ⟨⟨_, _, _, _, rfl⟩, ?_⟩)⟩
  · decide +kernel
  · decide +kernel

end Search

end FeedSearch
