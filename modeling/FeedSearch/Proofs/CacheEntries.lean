-- The cache as a map from keys to entries: what reading and writing one key
-- does to the entry of that key, and what it does to all other entries.
import FeedSearch.Search.Backend

namespace FeedSearch

namespace Cache

/-! ## Removing and adding -/

@[simp] theorem find?_erase_self (c : Cache) (key : String) : (c.erase key).find? key = none := by
  unfold find? erase
  rw [List.find?_eq_none]
  intro e he
  simpa using (List.mem_filter.mp he).2

theorem find?_erase_ne (c : Cache) {key other : String} (h : other ≠ key) :
    (c.erase key).find? other = c.find? other := by
  unfold find? erase
  rw [List.find?_filter]
  congr 1
  funext e
  by_cases he : e.key = other
  · simp [he, h]
  · simp [he]

/-- Removing one key leaves every entry as it is or takes it away. -/
theorem find?_erase (c : Cache) (key other : String) :
    (c.erase key).find? other = c.find? other ∨ (c.erase key).find? other = none := by
  by_cases h : other = key
  · subst h; exact Or.inr (find?_erase_self c other)
  · exact Or.inl (find?_erase_ne c h)

@[simp] theorem find?_put_self (c : Cache) (e : CacheEntry) : (c.put e).find? e.key = some e := by
  have h := find?_erase_self c e.key
  unfold find? at h ⊢
  unfold put
  simp only [List.find?_append, h]
  simp

theorem find?_put_ne (c : Cache) (e : CacheEntry) {other : String} (h : other ≠ e.key) :
    (c.put e).find? other = c.find? other := by
  have he := find?_erase_ne c h
  unfold find? at he ⊢
  unfold put
  simp [List.find?_append, he, Ne.symm h]

/-! ## Reading -/

/-- A read that finds something finds an entry that has not expired, and changes nothing. -/
theorem get_some {c : Cache} {key : String} {now : Instant} {records : List Record}
    (h : (c.get key now).1 = some records) :
    ∃ e, c.find? key = some e ∧ e.isFresh now = true ∧ e.records = records ∧
      (c.get key now).2 = c := by
  unfold get glimpse at h ⊢
  rcases hf : c.find? key with _ | e
  · simp [hf] at h
  · by_cases hfresh : e.isFresh now = true
    · simp only [hf, hfresh, if_true, Option.some.injEq] at h
      exact ⟨e, rfl, hfresh, h, by simp [hfresh]⟩
    · simp [hf, hfresh] at h

/-- A read that finds nothing leaves no entry of its key, and all other entries as they are. -/
theorem get_none {c : Cache} {key : String} {now : Instant} (h : (c.get key now).1 = none) :
    (c.get key now).2.find? key = none ∧
      ∀ other, other ≠ key → (c.get key now).2.find? other = c.find? other := by
  unfold get glimpse at h ⊢
  rcases hf : c.find? key with _ | e
  · simp [hf]
  · by_cases hfresh : e.isFresh now = true
    · simp [hf, hfresh] at h
    · simp only [hfresh, eraseStale, hf]
      exact ⟨find?_erase_self c key, fun other ho => find?_erase_ne c ho⟩

theorem get_defaultTtl (c : Cache) (key : String) (now : Instant) :
    (c.get key now).2.defaultTtl = c.defaultTtl := by
  unfold get eraseStale
  split
  · rfl
  · rfl
  · simp only
    split
    · split <;> rfl
    · rfl

/-! ## Writing -/

theorem makeRoom_eq (c : Cache) (key : String) :
    c.makeRoom key = c ∨ ∃ victim, c.makeRoom key = c.erase victim := by
  unfold makeRoom
  split
  · split
    · exact Or.inr ⟨_, rfl⟩
    · exact Or.inl rfl
  · exact Or.inl rfl

/-- Making room leaves every entry as it is or takes it away. -/
theorem find?_makeRoom (c : Cache) (key other : String) :
    (c.makeRoom key).find? other = c.find? other ∨ (c.makeRoom key).find? other = none := by
  rcases makeRoom_eq c key with h | ⟨victim, h⟩
  · rw [h]; exact Or.inl rfl
  · rw [h]; exact find?_erase c victim other

@[simp] theorem makeRoom_defaultTtl (c : Cache) (key : String) :
    (c.makeRoom key).defaultTtl = c.defaultTtl := by
  rcases makeRoom_eq c key with h | ⟨victim, h⟩ <;> rw [h]
  rfl

/-- The entry that a write of a key leaves under it. -/
def written (c : Cache) (key : String) (records : List Record) (ttl : Time.Span) (now : Instant) :
    CacheEntry :=
  { key, records, expiresAt := now + (c.effectiveTtl ttl).toNanos }

/-- A write, told by whether the clock can hold the time at which its entry expires. -/
theorem set_eq (c : Cache) (key : String) (records : List Record) (ttl : Time.Span)
    (now : Instant) :
    c.set key records ttl now =
      if (c.written key records ttl now).expiresAt ≤ lastInstant then
        (true, (c.makeRoom key).put (c.written key records ttl now))
      else (false, c.makeRoom key) := rfl

/-- A write that fits the clock leaves its entry under the key. -/
theorem set_fits {c : Cache} {key : String} {records : List Record} {ttl : Time.Span}
    {now : Instant} (h : (c.set key records ttl now).1 = true) :
    (c.set key records ttl now).2.find? key = some (c.written key records ttl now) := by
  rw [set_eq] at h ⊢
  split at h
  · rw [if_pos ‹_›]
    exact find?_put_self (c.makeRoom key) (c.written key records ttl now)
  · cases h

/-- A write leaves the entries of all other keys as they are or takes them away. -/
theorem set_other (c : Cache) {key other : String} (records : List Record) (ttl : Time.Span)
    (now : Instant) (h : other ≠ key) :
    (c.set key records ttl now).2.find? other = c.find? other ∨
      (c.set key records ttl now).2.find? other = none := by
  rw [set_eq]
  split
  · rw [find?_put_ne (c.makeRoom key) (c.written key records ttl now) h]
    exact find?_makeRoom c key other
  · exact find?_makeRoom c key other

/-- A write that does not fit the clock leaves no entry where there was none. -/
theorem set_overflow {c : Cache} {key : String} {records : List Record} {ttl : Time.Span}
    {now : Instant} (h : (c.set key records ttl now).1 = false) (hnone : c.find? key = none) :
    (c.set key records ttl now).2.find? key = none := by
  rw [set_eq] at h ⊢
  split at h
  · cases h
  · rw [if_neg ‹_›]
    rcases find?_makeRoom c key key with hr | hr
    · rw [hr, hnone]
    · exact hr

theorem set_defaultTtl (c : Cache) (key : String) (records : List Record) (ttl : Time.Span)
    (now : Instant) : (c.set key records ttl now).2.defaultTtl = c.defaultTtl := by
  rw [set_eq]
  split
  · exact makeRoom_defaultTtl c key
  · exact makeRoom_defaultTtl c key

end Cache

namespace Search.CacheLink

/-! ## Entries behind a link -/

/-- The entry of a key; a broken cache has none. -/
def find? : CacheLink → String → Option CacheEntry
  | .memory cache, key => cache.find? key
  | .broken, _ => none

/-- The time to live in use for a wanted one. -/
def ttlOf : CacheLink → Time.Span → Nat
  | .memory cache, wanted => (cache.effectiveTtl wanted).toNanos
  | .broken, wanted => wanted.toNanos

/-- A key has the entry that it had before, or none. -/
def NothingNew (l l' : CacheLink) (key : String) : Prop :=
  l'.find? key = l.find? key ∨ l'.find? key = none

theorem NothingNew.refl (l : CacheLink) (key : String) : NothingNew l l key := Or.inl rfl

theorem NothingNew.trans {l l' l'' : CacheLink} {key : String} (h : NothingNew l l' key)
    (h' : NothingNew l' l'' key) : NothingNew l l'' key := by
  rcases h' with h' | h'
  · unfold NothingNew
    rw [h']
    exact h
  · exact Or.inr h'

theorem get_some {l : CacheLink} {key : String} {now : Instant} {records : List Record}
    (h : (l.get key now).1 = some records) :
    ∃ e, l.find? key = some e ∧ e.isFresh now = true ∧ e.records = records ∧
      (l.get key now).2 = l := by
  cases l with
  | broken => simp [get] at h
  | memory cache =>
    obtain ⟨e, hf, hfresh, hr, hc⟩ := Cache.get_some h
    exact ⟨e, hf, hfresh, hr, by simp [get, hc]⟩

theorem get_none {l : CacheLink} {key : String} {now : Instant} (h : (l.get key now).1 = none) :
    (l.get key now).2.find? key = none ∧
      ∀ other, other ≠ key → (l.get key now).2.find? other = l.find? other := by
  cases l with
  | broken => exact ⟨rfl, fun _ _ => rfl⟩
  | memory cache => exact Cache.get_none h

theorem get_ttlOf (l : CacheLink) (key : String) (now : Instant) (wanted : Time.Span) :
    (l.get key now).2.ttlOf wanted = l.ttlOf wanted := by
  cases l with
  | broken => rfl
  | memory cache => simp [get, ttlOf, Cache.effectiveTtl, Cache.get_defaultTtl]

/-- A write to a cache in memory, by its two parts. -/
theorem set_memory (cache : Cache) (key : String) (records : List Record) (ttl : Time.Span)
    (now : Instant) :
    (memory cache).set key records ttl now =
      (if (cache.set key records ttl now).1 then .written else .overflow,
        .memory (cache.set key records ttl now).2) := by
  rcases hs : cache.set key records ttl now with ⟨fits, cache'⟩
  simp only [set, hs]

/-- A write that succeeds leaves its records under the key. -/
theorem set_written (l : CacheLink) (key : String) (records : List Record) (ttl : Time.Span)
    (now : Instant) (h : (l.set key records ttl now).1 = .written) :
    (l.set key records ttl now).2.find? key =
      some { key, records, expiresAt := now + l.ttlOf ttl } := by
  cases l with
  | broken => cases h
  | memory cache =>
    rw [set_memory] at h ⊢
    by_cases hfits : (cache.set key records ttl now).1 = true
    · exact Cache.set_fits hfits
    · simp [hfits] at h

/-- A write that does not succeed leaves no entry where there was none. -/
theorem set_not_written (l : CacheLink) (key : String) (records : List Record) (ttl : Time.Span)
    (now : Instant) (h : (l.set key records ttl now).1 ≠ .written) (hnone : l.find? key = none) :
    (l.set key records ttl now).2.find? key = none := by
  cases l with
  | broken => rfl
  | memory cache =>
    rw [set_memory] at h ⊢
    by_cases hfits : (cache.set key records ttl now).1 = true
    · simp [hfits] at h
    · exact Cache.set_overflow (by simpa using hfits) hnone

theorem set_other (l : CacheLink) (key other : String) (records : List Record) (ttl : Time.Span)
    (now : Instant) (h : other ≠ key) : NothingNew l (l.set key records ttl now).2 other := by
  cases l with
  | broken => exact Or.inl rfl
  | memory cache =>
    rw [set_memory]
    exact Cache.set_other cache records ttl now h

/-- A write to the cache that fails leaves no key with a new entry. -/
theorem set_nothingNew (l : CacheLink) (key other : String) (records : List Record)
    (ttl : Time.Span) (now : Instant) (h : (l.set key records ttl now).1 ≠ .written) :
    NothingNew l (l.set key records ttl now).2 other := by
  cases l with
  | broken => exact .inl rfl
  | memory cache =>
    rw [set_memory, Cache.set_eq] at h ⊢
    split
    · rename_i hfits
      rw [if_pos hfits] at h
      exact absurd rfl h
    · exact cache.find?_makeRoom key other

theorem set_ttlOf (l : CacheLink) (key : String) (records : List Record) (ttl : Time.Span)
    (now : Instant) (wanted : Time.Span) :
    (l.set key records ttl now).2.ttlOf wanted = l.ttlOf wanted := by
  cases l with
  | broken => rfl
  | memory cache =>
    rw [set_memory]
    simp [ttlOf, Cache.effectiveTtl, Cache.set_defaultTtl]

/-! ## The lists behind a link -/

/-- The list of every entry has a property. -/
def Lists (P : List Record → Prop) (l : CacheLink) : Prop :=
  ∀ key e, l.find? key = some e → P e.records

/-- A cache in which one key alone has a new entry. -/
theorem Lists.of_key {P : List Record → Prop} {l l' : CacheLink} {key : String} (h : l.Lists P)
    (hothers : ∀ other, other ≠ key → NothingNew l l' other)
    (hown : ∀ e, l'.find? key = some e → P e.records) : l'.Lists P := by
  intro other e he
  by_cases hkey : other = key
  · subst hkey
    exact hown e he
  · rcases hothers other hkey with hsame | hnone
    · exact h other e (hsame ▸ he)
    · rw [hnone] at he
      cases he

/-- A write to the cache leaves its list under the key, or nothing new. -/
theorem Lists.set {P : List Record → Prop} {l : CacheLink} (h : l.Lists P) {all : List Record}
    (hall : P all) (key : String) (ttl : Time.Span) (now : Instant) :
    (l.set key all ttl now).2.Lists P := by
  refine h.of_key (fun other => l.set_other key other all ttl now) fun e he => ?_
  by_cases hwritten : (l.set key all ttl now).1 = .written
  · rw [l.set_written key all ttl now hwritten] at he
    cases he
    exact hall
  · rcases l.set_nothingNew key key all ttl now hwritten with hsame | hnone
    · exact h key e (hsame ▸ he)
    · rw [hnone] at he
      cases he

end Search.CacheLink

end FeedSearch
