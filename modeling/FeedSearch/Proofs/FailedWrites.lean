-- Writes to the cache that fail because the clock cannot hold the time at which their
-- entry would expire. The room for the entry has been made by then: where it takes an
-- eviction to make it, the cache has lost an entry for nothing, and in no other case
-- is it changed.
import FeedSearch.Proofs.CacheHistory

namespace FeedSearch.Cache

open Time

variable {c : Cache} {key : String} {now : Instant} {records : List Record} {ttl : Span}

/-! ## All caches -/

/-- The caches that any reads and writes can leave, at any times, whether the writes fail or not.
The entries may lie in any order. -/
inductive Reached (defaultTtl : Span) (maxEntries : Nat) : Cache → Prop
  | empty : Reached defaultTtl maxEntries (empty defaultTtl maxEntries)
  | turn {c : Cache} {t : Turn} (reached : Reached defaultTtl maxEntries c)
      (before : c.Shuffled t.before) : Reached defaultTtl maxEntries t.after

theorem Neat.makeRoom (h : c.Neat) (key : String) : (c.makeRoom key).Neat := by
  rcases c.makeRoom_eq key with he | ⟨victim, he⟩
  · rw [he]
    exact h
  · rw [he]
    exact h.erase victim

theorem set_of_not_fits (hfails : lastInstant < (c.written key records ttl now).expiresAt) :
    c.set key records ttl now = (false, c.makeRoom key) := by
  rw [set_eq, if_neg (Nat.not_le.mpr hfails)]

/-- No turn disturbs the order of a cache, whether or not it fits. -/
theorem Neat.after {t : Turn} (h : t.before.Neat) : t.after.Neat := by
  by_cases hfits : t.Fits
  · exact hfits.neat h
  · cases hact : t.act with
    | set key records ttl =>
      have hlate : lastInstant < (t.before.written key records ttl t.now).expiresAt := by
        simp only [Turn.Fits, hact] at hfits
        exact Nat.lt_of_not_le hfits
      rw [Turn.after_set hact, set_of_not_fits hlate]
      exact h.makeRoom key
    | get key => exact absurd (by simp only [Turn.Fits, hact]) hfits
    | wait nanos => exact absurd (by simp only [Turn.Fits, hact]) hfits

theorem Reached.neat {defaultTtl : Span} {maxEntries : Nat} (h : Reached defaultTtl maxEntries c) :
    c.Neat := by
  induction h with
  | empty => exact empty_neat defaultTtl maxEntries
  | turn _ before ih => exact (ih.shuffled before).after

/-! ## What makes room -/

/-- An entry goes, and it alone. -/
theorem Neat.mem_erase_iff (h : c.Neat) {victim e : CacheEntry} (hv : victim ∈ c.entries) :
    e ∈ (c.erase victim.key).entries ↔ e ∈ c.entries ∧ e ≠ victim := by
  rw [mem_erase]
  refine and_congr_right fun he => not_congr ⟨fun hkey => ?_, fun heq => by rw [heq]⟩
  exact List.inj_on_of_nodup_map h.keys he hv hkey

/-- Nothing goes exactly if the key has an entry or there is room for one more. -/
theorem Neat.makeRoom_eq_self (h : c.Neat) :
    c.makeRoom key = c ↔ (c.find? key).isSome ∨ c.size < c.maxEntries := by
  rcases h.makeRoom_cases key with ⟨hroom, he⟩ | ⟨victim, hv, he⟩
  · refine ⟨fun _ => ?_, fun _ => he⟩
    cases hfind : c.find? key with
    | none => exact Or.inr (hroom hfind)
    | some e => exact Or.inl rfl
  · rw [he, hv.absent]
    constructor
    · intro hsame
      have hstays : victim ∈ (c.erase victim.key).entries := by
        rw [hsame]
        exact hv.mem
      exact absurd rfl ((h.mem_erase_iff hv.mem).mp hstays).2
    · rintro (hsome | hroom)
      · cases hsome
      · exact absurd hv.full (Nat.not_le.mpr hroom)

/-! ## The law -/

/-- A write whose entry would expire after the last time of the clock fails. It leaves the cache as
it was exactly if the key has an entry or there is room for one more; else it has evicted one of the
entries that expire first, and all others are there as before. -/
theorem a_failed_write_leaves_all_but_what_it_evicted {defaultTtl : Span} {maxEntries : Nat}
    (hc : Reached defaultTtl maxEntries c) (key : String) (records : List Record) (ttl : Span)
    (now : Instant) (hlate : lastInstant < now + (c.effectiveTtl ttl).toNanos) :
    let after := (c.set key records ttl now).2
    (c.set key records ttl now).1 = false ∧
      (after = c ↔ (c.find? key).isSome ∨ c.size < c.maxEntries) ∧
      (after ≠ c → ∃ victim, c.Victim key victim ∧ after = c.erase victim.key ∧
        ∀ e, e ∈ after.entries ↔ e ∈ c.entries ∧ e ≠ victim) := by
  intro after
  have hset : c.set key records ttl now = (false, c.makeRoom key) := set_of_not_fits hlate
  have hafter : after = c.makeRoom key := congrArg Prod.snd hset
  refine ⟨congrArg Prod.fst hset, ?_, fun hchanged => ?_⟩
  · rw [hafter]
    exact hc.neat.makeRoom_eq_self
  · rcases hc.neat.makeRoom_cases key with ⟨_, he⟩ | ⟨victim, hv, he⟩
    · exact absurd (hafter.trans he) hchanged
    · rw [hafter, he]
      exact ⟨victim, hv, rfl, fun e => hc.neat.mem_erase_iff hv.mem⟩

/-! ## An eviction for nothing -/

/-- A cache with room for one entry, and an entry in it. -/
def oneEntry : Cache := ((empty standardTtl 1).set "a" [] (.ofSeconds 10) 0).2

theorem oneEntry_reached : Reached standardTtl 1 oneEntry :=
  .turn (t := ⟨.set "a" [] (.ofSeconds 10), 0, empty standardTtl 1⟩) .empty (.refl _)

/-- Its own key may be written in vain; another key takes the entry away. -/
theorem a_write_in_vain_spares_its_own_key :
    lastInstant < 0 + (oneEntry.effectiveTtl .longest).toNanos ∧
      (oneEntry.set "a" [] .longest 0).2 = oneEntry ∧
      (oneEntry.set "b" [] .longest 0).2 ≠ oneEntry := by
  have hlate : lastInstant < 0 + (oneEntry.effectiveTtl .longest).toNanos := by decide
  have hlaw := fun key =>
    a_failed_write_leaves_all_but_what_it_evicted oneEntry_reached key [] .longest 0 hlate
  refine ⟨hlate, (hlaw "a").2.1.mpr (by decide), fun hsame => ?_⟩
  exact absurd ((hlaw "b").2.1.mp hsame) (by decide)

/-- The write of a new key to a full cache fails, and the one entry of the cache, which has not
expired, is gone. -/
theorem a_failed_write_takes_an_entry_away :
    Reached standardTtl 1 oneEntry ∧ (oneEntry.set "b" [] .longest 0).1 = false ∧
      oneEntry.entries = [⟨"a", [], 10000000000⟩] ∧
      (oneEntry.set "b" [] .longest 0).2.entries = [] :=
  ⟨oneEntry_reached, by decide, rfl, rfl⟩

end FeedSearch.Cache
