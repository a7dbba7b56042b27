-- What has to go from a full cache. Every key has one entry at most, a write of a
-- new key takes the entry away that expires first, and two caches that hold the
-- same entries but for some that have expired lose the same to a write.
import FeedSearch.Proofs.FailedSearches
import Mathlib.Data.List.Nodup
import Mathlib.Data.List.Perm.Subperm

namespace FeedSearch

open Time

/-- What has expired stays so. -/
theorem CacheEntry.isFresh_later {e : CacheEntry} {now later : Instant}
    (h : e.isFresh now = false) (hle : now ≤ later) : e.isFresh later = false := by
  simp only [CacheEntry.isFresh, decide_eq_false_iff_not, Nat.not_lt] at h ⊢
  exact Nat.le_trans h hle

namespace Cache

/-! ## Entries -/

variable {c c' : Cache} {e f : CacheEntry} {key other : String} {now : Instant}

theorem mem_erase : e ∈ (c.erase key).entries ↔ e ∈ c.entries ∧ e.key ≠ key := by
  simp [erase]

theorem mem_put : e ∈ (c.put f).entries ↔ e = f ∨ e ∈ c.entries ∧ e.key ≠ f.key := by
  simp [put, erase, or_comm]

theorem size_erase_lt (h : e ∈ c.entries) : (c.erase e.key).size < c.size := by
  unfold size erase
  rw [List.length_filter_lt_length_iff_exists]
  exact ⟨e, h, by simp⟩

theorem size_erase_le (c : Cache) (key : String) : (c.erase key).size ≤ c.size :=
  List.length_filter_le _ _

theorem size_put (c : Cache) (e : CacheEntry) : (c.put e).size = (c.erase e.key).size + 1 := by
  simp [size, put]

/-- No two entries have one key, and there are no more entries than there is room for, which is one
at least. -/
structure Neat (c : Cache) : Prop where
  keys : (c.entries.map (·.key)).Nodup
  size_le : c.size ≤ c.maxEntries
  maxEntries_pos : 0 < c.maxEntries

theorem Neat.find?_eq_some (h : c.Neat) : c.find? key = some e ↔ e ∈ c.entries ∧ e.key = key := by
  constructor
  · intro hfind
    exact ⟨List.mem_of_find?_eq_some hfind, by simpa using List.find?_some hfind⟩
  · rintro ⟨hmem, rfl⟩
    have hsome : (c.find? e.key).isSome := List.find?_isSome.mpr ⟨e, hmem, by simp⟩
    obtain ⟨f, hf⟩ := Option.isSome_iff_exists.mp hsome
    have hkey : f.key = e.key := by simpa using List.find?_some hf
    have hsame : f = e :=
      List.inj_on_of_nodup_map h.keys (List.mem_of_find?_eq_some hf) hmem hkey
    rw [hf, hsame]

theorem find?_eq_none : c.find? key = none ↔ ∀ e ∈ c.entries, e.key ≠ key := by
  simp [find?, List.find?_eq_none]

theorem Neat.nodup (h : c.Neat) : c.entries.Nodup := List.Nodup.of_map _ h.keys

theorem Neat.erase (h : c.Neat) (key : String) : (c.erase key).Neat where
  keys := h.keys.sublist (List.filter_sublist.map _)
  size_le := Nat.le_trans (c.size_erase_le key) h.size_le
  maxEntries_pos := h.maxEntries_pos

theorem Neat.put (h : c.Neat) (hroom : (c.erase e.key).size < c.maxEntries) : (c.put e).Neat where
  keys := by
    have hkept := (h.erase e.key).keys
    simp only [Cache.put, List.map_append, List.map_cons, List.map_nil]
    refine List.Nodup.append hkept (by simp) fun k hk hone => ?_
    obtain ⟨f, hf, rfl⟩ := List.mem_map.mp hk
    exact (mem_erase.mp hf).2 (by simpa using hone)
  size_le := by
    rw [size_put]
    exact hroom
  maxEntries_pos := h.maxEntries_pos

/-! ## Making room -/

theorem soonest?_eq_none {entries : List CacheEntry} (h : soonest? entries = none) :
    entries = [] := by
  cases entries with
  | nil => rfl
  | cons e rest =>
    simp only [soonest?] at h
    split at h
    · cases h
    · split at h <;> cases h

/-- The entry that goes first expires no later than any other. -/
theorem soonest?_eq_some {entries : List CacheEntry} (h : soonest? entries = some e) :
    e ∈ entries ∧ ∀ f ∈ entries, e.expiresAt ≤ f.expiresAt := by
  induction entries generalizing e with
  | nil => cases h
  | cons first rest ih =>
    simp only [soonest?] at h
    split at h
    · rename_i hnone
      obtain rfl := Option.some.inj h
      rw [soonest?_eq_none hnone]
      simp
    · rename_i g hg
      obtain ⟨hmem, hleast⟩ := ih hg
      split at h
      · rename_i hlt
        obtain rfl := Option.some.inj h
        refine ⟨List.mem_cons_of_mem _ hmem, fun f hf => ?_⟩
        rcases List.mem_cons.mp hf with rfl | hf
        · exact Nat.le_of_lt hlt
        · exact hleast f hf
      · rename_i hge
        obtain rfl := Option.some.inj h
        refine ⟨.head _, fun f hf => ?_⟩
        rcases List.mem_cons.mp hf with rfl | hf
        · exact Nat.le_refl _
        · exact Nat.le_trans (Nat.le_of_not_lt hge) (hleast f hf)

/-- An entry that has to go for a key: the key is new, the cache is full, and no entry expires
before it. -/
structure Victim (c : Cache) (key : String) (victim : CacheEntry) : Prop where
  mem : victim ∈ c.entries
  absent : c.find? key = none
  full : c.maxEntries ≤ c.size
  soonest : ∀ e ∈ c.entries, victim.expiresAt ≤ e.expiresAt

/-- Of the entries that may have to go for a key, one at most has not expired. -/
def Decided (c : Cache) (key : String) (now : Instant) : Prop :=
  ∀ victim rival, c.Victim key victim → c.Victim key rival →
    victim.isFresh now = true → rival.isFresh now = true → rival = victim

/-- Room is made by evicting one entry, or nothing has to go. -/
theorem Neat.makeRoom_cases (h : c.Neat) (key : String) :
    ((c.find? key = none → c.size < c.maxEntries) ∧ c.makeRoom key = c) ∨
      ∃ victim, c.Victim key victim ∧ c.makeRoom key = c.erase victim.key := by
  by_cases hfull : (c.find? key).isNone && c.maxEntries ≤ c.size
  · obtain ⟨hnew, hsize⟩ : c.find? key = none ∧ c.maxEntries ≤ c.size := by simpa using hfull
    cases hs : soonest? c.entries with
    | none =>
      have hempty : c.size = 0 := by rw [size, soonest?_eq_none hs, List.length_nil]
      have hpos := h.maxEntries_pos
      omega
    | some victim =>
      obtain ⟨hmem, hleast⟩ := soonest?_eq_some hs
      exact Or.inr ⟨victim, ⟨hmem, hnew, hsize, hleast⟩, by simp [makeRoom, hfull, hs]⟩
  · refine Or.inl ⟨fun hnew => ?_, by simp [makeRoom, hfull]⟩
    simpa [hnew] using hfull

/-- Entries that expire at different times do not compete. -/
theorem decided_of_nodup (h : (c.entries.map (·.expiresAt)).Nodup) (key : String) (now : Instant) :
    c.Decided key now := by
  intro victim rival hv hrival _ _
  refine List.inj_on_of_nodup_map h hrival.mem hv.mem ?_
  exact Nat.le_antisymm (hrival.soonest victim hv.mem) (hv.soonest rival hrival.mem)

variable {records : List Record} {ttl : Span}

/-- A write that fits, by the entries that it leaves. -/
theorem mem_set (hfits : (c.written key records ttl now).expiresAt ≤ lastInstant) :
    e ∈ (c.set key records ttl now).2.entries ↔ e = c.written key records ttl now ∨
      e ∈ (c.makeRoom key).entries ∧ e.key ≠ key := by
  rw [set_eq, if_pos hfits]
  exact mem_put

theorem mem_of_mem_makeRoom (h : e ∈ (c.makeRoom key).entries) : e ∈ c.entries := by
  rcases c.makeRoom_eq key with he | ⟨_, he⟩
  · rwa [he] at h
  · rw [he] at h
    exact (mem_erase.mp h).1

theorem Neat.set (h : c.Neat)
    (hfits : (c.written key records ttl now).expiresAt ≤ lastInstant) :
    (c.set key records ttl now).2.Neat := by
  rw [set_eq, if_pos hfits]
  have hkey : (c.written key records ttl now).key = key := rfl
  rcases h.makeRoom_cases key with ⟨hroom, he⟩ | ⟨victim, hv, he⟩
  · rw [he]
    refine h.put ?_
    rw [hkey]
    cases hf : c.find? key with
    | none => exact Nat.lt_of_le_of_lt (c.size_erase_le key) (hroom hf)
    | some f =>
      obtain ⟨hmem, rfl⟩ := h.find?_eq_some.mp hf
      exact Nat.lt_of_lt_of_le (size_erase_lt hmem) h.size_le
  · rw [he]
    refine (h.erase victim.key).put ?_
    exact Nat.lt_of_le_of_lt ((c.erase victim.key).size_erase_le _)
      (Nat.lt_of_lt_of_le (size_erase_lt hv.mem) h.size_le)

theorem get_cases (c : Cache) (key : String) (now : Instant) : (c.get key now).2 = c ∨
    (c.get key now).1 = none ∧ ∃ stale, c.find? key = some stale ∧ stale.isFresh now = false ∧
      (c.get key now).2 = c.erase key := by
  cases hg : (c.get key now).1 with
  | none =>
    rcases get_swept hg with he | ⟨stale, hstale, hexpired, he⟩
    · exact Or.inl he
    · exact Or.inr ⟨rfl, stale, hstale, hexpired, he⟩
  | some records =>
    obtain ⟨_, _, _, _, he⟩ := get_some hg
    exact Or.inl he

theorem Neat.get (h : c.Neat) (key : String) (now : Instant) : (c.get key now).2.Neat := by
  rcases c.get_cases key now with he | ⟨_, _, _, _, he⟩
  · rw [he]
    exact h
  · rw [he]
    exact h.erase key

/-! ## The order of the entries -/

/-- The same entries with the same settings. The order in which the entries lie is nobody's
choice. -/
structure Shuffled (c c' : Cache) : Prop where
  defaultTtl : c'.defaultTtl = c.defaultTtl
  maxEntries : c'.maxEntries = c.maxEntries
  entries : c'.entries.Perm c.entries

theorem Shuffled.refl (c : Cache) : c.Shuffled c := ⟨rfl, rfl, .refl _⟩

theorem Neat.shuffled (h : c.Neat) (hs : c.Shuffled c') : c'.Neat where
  keys := (hs.entries.map _).nodup_iff.mpr h.keys
  size_le := by
    rw [hs.maxEntries, size, hs.entries.length_eq]
    exact h.size_le
  maxEntries_pos := by
    rw [hs.maxEntries]
    exact h.maxEntries_pos

theorem Neat.find?_shuffled (h : c.Neat) (hs : c.Shuffled c') (key : String) :
    c'.find? key = c.find? key := by
  refine Option.ext fun e => ?_
  rw [(h.shuffled hs).find?_eq_some, h.find?_eq_some, hs.entries.mem_iff]

theorem makeRoom_maxEntries (c : Cache) (key : String) :
    (c.makeRoom key).maxEntries = c.maxEntries := by
  rcases c.makeRoom_eq key with he | ⟨_, he⟩
  · rw [he]
  · rw [he]
    rfl

/-! ## Caches that hold the same as far as it can be told -/

/-- The caches hold the same entries that have not expired. -/
def SameFresh (now : Instant) (c c' : Cache) : Prop :=
  ∀ e : CacheEntry, e.isFresh now = true → (e ∈ c.entries ↔ e ∈ c'.entries)

theorem SameFresh.symm (h : SameFresh now c c') : SameFresh now c' c :=
  fun e hfresh => (h e hfresh).symm

theorem SameFresh.later {later : Instant} (h : SameFresh now c c') (hle : now ≤ later) :
    SameFresh later c c' := by
  refine fun e hfresh => h e ?_
  by_contra hexpired
  rw [CacheEntry.isFresh_later (Bool.eq_false_iff.mpr hexpired) hle] at hfresh
  cases hfresh

theorem SameFresh.shuffled {d d' : Cache} (h : SameFresh now c c') (hc : c.Shuffled d)
    (hc' : c'.Shuffled d') : SameFresh now d d' := by
  intro e hfresh
  rw [hc.entries.mem_iff, hc'.entries.mem_iff]
  exact h e hfresh

/-- A read changes nothing that can be told. -/
theorem Neat.sameFresh_get (h : c.Neat) (key : String) (now : Instant) :
    SameFresh now c (c.get key now).2 := by
  intro e hfresh
  rcases c.get_cases key now with he | ⟨_, stale, hstale, hexpired, he⟩
  · rw [he]
  · rw [he, mem_erase]
    refine ⟨fun hmem => ⟨hmem, ?_⟩, And.left⟩
    rintro rfl
    rw [h.find?_eq_some.mpr ⟨hmem, rfl⟩] at hstale
    rw [Option.some.inj hstale, hexpired] at hfresh
    cases hfresh

/-- What a read finds, by the entries that have not expired. -/
theorem Neat.get_eq_some (h : c.Neat) : (c.get key now).1 = some records ↔
    ∃ e ∈ c.entries, e.key = key ∧ e.isFresh now = true ∧ e.records = records := by
  constructor
  · intro hget
    obtain ⟨e, hfind, hfresh, hrecords, _⟩ := Cache.get_some hget
    obtain ⟨hmem, hkey⟩ := h.find?_eq_some.mp hfind
    exact ⟨e, hmem, hkey, hfresh, hrecords⟩
  · rintro ⟨e, hmem, hkey, hfresh, rfl⟩
    have hfind := h.find?_eq_some.mpr ⟨hmem, hkey⟩
    simp only [Cache.get, glimpse, hfind, hfresh, if_true]

theorem SameFresh.get_eq (h : SameFresh now c c') (hc : c.Neat) (hc' : c'.Neat) (key : String) :
    (c'.get key now).1 = (c.get key now).1 := by
  refine Option.ext fun records => ?_
  rw [hc'.get_eq_some, hc.get_eq_some]
  constructor
  · rintro ⟨e, hmem, hkey, hfresh, hrecords⟩
    exact ⟨e, (h e hfresh).mpr hmem, hkey, hfresh, hrecords⟩
  · rintro ⟨e, hmem, hkey, hfresh, hrecords⟩
    exact ⟨e, (h e hfresh).mp hmem, hkey, hfresh, hrecords⟩

theorem Victim.all_fresh {victim : CacheEntry} (hv : c.Victim key victim)
    (hfresh : victim.isFresh now = true) : ∀ e ∈ c.entries, e.isFresh now = true := fun e he =>
  decide_eq_true (Nat.lt_of_lt_of_le (of_decide_eq_true hfresh) (hv.soonest e he))

/-- If what has to go has not expired, nothing has, and a cache that holds the same as far as it can
be told holds the same indeed. -/
theorem Victim.perm {victim : CacheEntry} (hv : c.Victim key victim)
    (hfresh : victim.isFresh now = true) (hc : c.Neat) (hc' : c'.Neat)
    (hmax : c'.maxEntries = c.maxEntries) (h : SameFresh now c c') :
    c.entries.Perm c'.entries := by
  have hsub : c.entries ⊆ c'.entries := fun e he => (h e (hv.all_fresh hfresh e he)).mp he
  have hlength : c'.entries.length ≤ c.entries.length :=
    Nat.le_trans hc'.size_le (hmax ▸ hv.full)
  exact (List.subperm_of_subset hc.nodup hsub).perm_of_length_le hlength

theorem Victim.of_perm {victim : CacheEntry} (hv : c.Victim key victim)
    (hmax : c'.maxEntries = c.maxEntries) (hp : c.entries.Perm c'.entries) :
    c'.Victim key victim where
  mem := hp.mem_iff.mp hv.mem
  absent := find?_eq_none.mpr fun e he =>
    find?_eq_none.mp hv.absent e (hp.mem_iff.mpr he)
  full := by
    rw [hmax, size, ← hp.length_eq]
    exact hv.full
  soonest e he := hv.soonest e (hp.mem_iff.mpr he)

theorem Neat.victim_of_not_mem (h : c.Neat) (hmem : e ∈ c.entries)
    (hgone : e ∉ (c.makeRoom key).entries) : c.Victim key e := by
  rcases h.makeRoom_cases key with ⟨_, he⟩ | ⟨victim, hv, he⟩
  · rw [he] at hgone
    exact absurd hmem hgone
  · have hkey : e.key = victim.key := by
      by_contra hne
      exact hgone (he ▸ mem_erase.mpr ⟨hmem, hne⟩)
    rwa [List.inj_on_of_nodup_map h.keys hmem hv.mem hkey]

/-- What goes from one cache goes from the other, if it has not expired. -/
theorem SameFresh.not_mem_makeRoom (h : SameFresh now c c') (hc : c.Neat) (hc' : c'.Neat)
    (hmax : c'.maxEntries = c.maxEntries) (hdecided : c.Decided key now)
    (hfresh : e.isFresh now = true) (hmem : e ∈ c.entries)
    (hgone : e ∉ (c.makeRoom key).entries) : e ∉ (c'.makeRoom key).entries := by
  have hv := hc.victim_of_not_mem hmem hgone
  have hp := hv.perm hfresh hc hc' hmax h
  have hv' := hv.of_perm hmax hp
  rcases hc'.makeRoom_cases key with ⟨hroom, _⟩ | ⟨rival, hrival, he⟩
  · exact absurd (hroom hv'.absent) (Nat.not_lt.mpr hv'.full)
  · have hrival' := hrival.of_perm hmax.symm hp.symm
    have hsame := hdecided e rival hv hrival' hfresh (hv.all_fresh hfresh rival hrival'.mem)
    rw [he, hsame]
    exact fun hstays => (mem_erase.mp hstays).2 rfl

theorem SameFresh.decided (h : SameFresh now c c') (hc : c.Neat) (hc' : c'.Neat)
    (hmax : c'.maxEntries = c.maxEntries) (hdecided : c.Decided key now) : c'.Decided key now := by
  intro victim rival hv hrival hfresh hfresh'
  have hp := hv.perm hfresh hc' hc hmax.symm h.symm
  exact hdecided victim rival (hv.of_perm hmax.symm hp) (hrival.of_perm hmax.symm hp) hfresh
    hfresh'

theorem SameFresh.makeRoom (h : SameFresh now c c') (hc : c.Neat) (hc' : c'.Neat)
    (hmax : c'.maxEntries = c.maxEntries) (hdecided : c.Decided key now) :
    SameFresh now (c.makeRoom key) (c'.makeRoom key) := by
  intro e hfresh
  by_cases hmem : e ∈ c.entries
  · have hmem' := (h e hfresh).mp hmem
    have hdecided' := h.decided hc hc' hmax hdecided
    constructor
    · intro hstays
      by_contra hgone
      exact h.symm.not_mem_makeRoom hc' hc hmax.symm hdecided' hfresh hmem' hgone hstays
    · intro hstays
      by_contra hgone
      exact h.not_mem_makeRoom hc hc' hmax hdecided hfresh hmem hgone hstays
  · have hmem' : e ∉ c'.entries := fun hmem' => hmem ((h e hfresh).mpr hmem')
    exact ⟨fun hstays => absurd (mem_of_mem_makeRoom hstays) hmem,
      fun hstays => absurd (mem_of_mem_makeRoom hstays) hmem'⟩

theorem SameFresh.set (h : SameFresh now c c') (hc : c.Neat) (hc' : c'.Neat)
    (hmax : c'.maxEntries = c.maxEntries) (httl : c'.defaultTtl = c.defaultTtl)
    (hdecided : c.Decided key now)
    (hfits : (c.written key records ttl now).expiresAt ≤ lastInstant) :
    SameFresh now (c.set key records ttl now).2 (c'.set key records ttl now).2 := by
  intro e hfresh
  have hwritten : c'.written key records ttl now = c.written key records ttl now := by
    simp only [written, effectiveTtl, httl]
  rw [mem_set hfits, mem_set (hwritten ▸ hfits), hwritten]
  rw [h.makeRoom hc hc' hmax hdecided e hfresh]

end Cache

end FeedSearch
