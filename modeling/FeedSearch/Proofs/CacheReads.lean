-- Many reads of a cache at once. A read takes the time, looks at the entry of its key,
-- and comes back to remove it if it has expired; others read and write in between. It
-- judges by the time that it took, and what is written expires later than that, so
-- nothing goes but what had expired when the read began.
import FeedSearch.Proofs.CacheEntries

namespace FeedSearch

open Time

theorem Time.Span.toNanos_pos {s : Span} (h : s.isZero = false) : 0 < s.toNanos := by
  have hparts : s.seconds = 0 → s.nanos ≠ 0 := by
    intro hseconds hnanos
    simp [Span.isZero, hseconds, hnanos] at h
  unfold Span.toNanos nanosPerSecond
  by_cases hnanos : s.nanos = 0
  · have hseconds : s.seconds.toNat ≠ 0 := fun hzero =>
      hparts (UInt64.toNat_inj.mp hzero) hnanos
    omega
  · omega

namespace Cache

variable {c : Cache} {e : CacheEntry} {key other : String} {now : Instant}

/-! ## What one call adds and takes away -/

theorem empty_lives (defaultTtl : Span) (maxEntries : Nat) :
    (empty defaultTtl maxEntries).defaultTtl.isZero = false := by
  unfold empty
  by_cases hzero : defaultTtl.isZero = true
  · simp only [if_pos hzero]
    decide
  · simp only [if_neg hzero]
    exact Bool.eq_false_iff.mpr hzero

theorem effectiveTtl_pos (h : c.defaultTtl.isZero = false) (ttl : Span) :
    0 < (c.effectiveTtl ttl).toNanos := by
  unfold effectiveTtl
  by_cases hzero : ttl.isZero = true
  · rw [if_pos hzero]
    exact Span.toNanos_pos h
  · rw [if_neg hzero]
    exact Span.toNanos_pos (Bool.eq_false_iff.mpr hzero)

/-- What a write leaves was there before, or expires later than now. -/
theorem find?_set (h : c.defaultTtl.isZero = false) {records : List Record} {ttl : Span}
    (he : (c.set key records ttl now).2.find? other = some e) :
    c.find? other = some e ∨ now < e.expiresAt := by
  have hroom : (c.makeRoom key).find? other = some e → c.find? other = some e := by
    intro hfind
    rcases c.find?_makeRoom key other with hsame | hnone
    · exact hsame ▸ hfind
    · rw [hnone] at hfind
      cases hfind
  rw [set_eq] at he
  split at he
  · by_cases hkey : other = key
    · subst hkey
      have hwritten := find?_put_self (c.makeRoom other) (c.written other records ttl now)
      obtain rfl := Option.some.inj (hwritten.symm.trans he)
      exact Or.inr (Nat.lt_add_of_pos_right (effectiveTtl_pos h ttl))
    · rw [find?_put_ne (c.makeRoom key) (c.written key records ttl now) hkey] at he
      exact Or.inl (hroom he)
  · exact Or.inl (hroom he)

/-- A removal takes one entry at most, one that has expired. -/
theorem eraseStale_cases (c : Cache) (key : String) (now : Instant) :
    c.eraseStale key now = c ∨
      ∃ stale, c.find? key = some stale ∧ stale.expiresAt ≤ now ∧
        c.eraseStale key now = c.erase key := by
  unfold eraseStale
  cases hf : c.find? key with
  | none => exact Or.inl rfl
  | some stale =>
    by_cases hfresh : stale.isFresh now = true
    · exact Or.inl (if_pos hfresh)
    · refine Or.inr ⟨stale, rfl, ?_, if_neg hfresh⟩
      unfold CacheEntry.isFresh at hfresh
      simpa using hfresh

/-! ## Reads in pieces -/

/-- How far a read has come: it has taken the time; it has seen an entry that had expired by then;
it has its answer. -/
inductive Read where
  | begun (key : String) (asked : Instant)
  | expired (key : String) (asked : Instant)
  | answered (found : Option (List Record))
  deriving Repr

/-- A cache that is in use: the time, and all reads that have begun, by their numbers. -/
structure InUse where
  cache : Cache
  now : Instant
  reads : List Read
  deriving Repr

/-- What is done at one time and not interrupted: a new read takes the time, a read looks, a read
removes what has expired, somebody writes, or time goes by. -/
inductive Piece where
  | begin (key : String)
  | look (read : Nat)
  | remove (read : Nat)
  | set (key : String) (records : List Record) (ttl : Span)
  | wait (nanos : Nat)
  deriving Repr

namespace Read

/-- What a read does after it has looked. -/
def looked (key : String) (asked : Instant) : Glimpse → Read
  | .missing => .answered none
  | .fresh records => .answered (some records)
  | .stale => .expired key asked

/-- The key and the time of a read that has no answer yet. -/
def about : Read → Option (String × Instant)
  | .begun key asked => some (key, asked)
  | .expired key asked => some (key, asked)
  | .answered _ => none

theorem about_looked (key : String) (asked : Instant) (g : Glimpse) :
    (looked key asked g).about = some (key, asked) ∨ (looked key asked g).about = none := by
  cases g with
  | missing => exact Or.inr rfl
  | fresh records => exact Or.inr rfl
  | stale => exact Or.inl rfl

end Read

namespace InUse

def start (c : Cache) (since : Instant) : InUse := { cache := c, now := since, reads := [] }

/-- A read that is not at a piece does not do it. -/
def act (w : InUse) : Piece → InUse
  | .begin key => { w with reads := w.reads ++ [.begun key w.now] }
  | .look n =>
    match w.reads[n]? with
    | some (.begun key asked) =>
      { w with reads := w.reads.set n (.looked key asked (w.cache.glimpse key asked)) }
    | _ => w
  | .remove n =>
    match w.reads[n]? with
    | some (.expired key asked) =>
      { w with
        cache := w.cache.eraseStale key asked
        reads := w.reads.set n (.answered none) }
    | _ => w
  | .set key records ttl => { w with cache := (w.cache.set key records ttl w.now).2 }
  | .wait nanos => { w with now := w.now + nanos }

def play (w : InUse) (pieces : List Piece) : InUse := pieces.foldl act w

variable {w w' w'' : InUse} {n : Nat} {r : Read} {asked : Instant}

theorem play_append (w : InUse) (a b : List Piece) : w.play (a ++ b) = (w.play a).play b :=
  List.foldl_append

/-- A read whose pieces nobody comes between is the read of the cache. -/
theorem undisturbed (w : InUse) (key : String) :
    w.play [.begin key, .look w.reads.length, .remove w.reads.length] =
      { w with
        cache := (w.cache.get key w.now).2
        reads := w.reads ++ [.answered (w.cache.get key w.now).1] } := by
  unfold get
  cases hg : w.cache.glimpse key w.now <;> simp [play, act, Read.looked, hg]

/-! ## What a piece does -/

theorem look_cases (w : InUse) (n : Nat) : w.act (.look n) = w ∨
    ∃ key asked, w.reads[n]? = some (.begun key asked) ∧ w.act (.look n) =
      { w with reads := w.reads.set n (.looked key asked (w.cache.glimpse key asked)) } := by
  simp only [act]
  split
  · rename_i key asked hr
    exact Or.inr ⟨key, asked, hr, rfl⟩
  · exact Or.inl rfl

theorem remove_cases (w : InUse) (n : Nat) : w.act (.remove n) = w ∨
    ∃ key asked, w.reads[n]? = some (.expired key asked) ∧ w.act (.remove n) =
      { w with
        cache := w.cache.eraseStale key asked
        reads := w.reads.set n (.answered none) } := by
  simp only [act]
  split
  · rename_i key asked hr
    exact Or.inr ⟨key, asked, hr, rfl⟩
  · exact Or.inl rfl

/-! ## Time goes on -/

/-- Later on: every entry was there before or expires later than the time before, and entries that
are given no time to live have the same. -/
structure Onward (w w' : InUse) : Prop where
  time : w.now ≤ w'.now
  defaultTtl : w'.cache.defaultTtl = w.cache.defaultTtl
  newer : ∀ key e, w'.cache.find? key = some e → w.cache.find? key = some e ∨ w.now < e.expiresAt

theorem Onward.refl (w : InUse) : w.Onward w := ⟨Nat.le_refl _, rfl, fun _ _ => Or.inl⟩

theorem Onward.trans (h : w.Onward w') (h' : w'.Onward w'') : w.Onward w'' where
  time := Nat.le_trans h.time h'.time
  defaultTtl := h'.defaultTtl.trans h.defaultTtl
  newer key e he := by
    rcases h'.newer key e he with hbefore | hlate
    · exact h.newer key e hbefore
    · exact Or.inr (Nat.lt_of_le_of_lt h.time hlate)

/-- An entry that has expired by the time before was there before. -/
theorem Onward.was_there (h : w.Onward w') (he : w'.cache.find? key = some e)
    (hexpired : e.expiresAt ≤ w.now) : w.cache.find? key = some e :=
  (h.newer key e he).resolve_right (Nat.not_lt.mpr hexpired)

theorem onward_act (h : w.cache.defaultTtl.isZero = false) (p : Piece) : w.Onward (w.act p) := by
  cases p with
  | begin key => exact ⟨Nat.le_refl _, rfl, fun _ _ => Or.inl⟩
  | look n =>
    rcases w.look_cases n with hsame | ⟨_, _, _, hlooked⟩
    · rw [hsame]
      exact .refl w
    · rw [hlooked]
      exact ⟨Nat.le_refl _, rfl, fun _ _ => Or.inl⟩
  | remove n =>
    rcases w.remove_cases n with hsame | ⟨key, asked, _, hremoved⟩
    · rw [hsame]
      exact .refl w
    · rw [hremoved]
      rcases w.cache.eraseStale_cases key asked with hsame | ⟨_, _, _, herased⟩
      · rw [hsame]
        exact ⟨Nat.le_refl _, rfl, fun _ _ => Or.inl⟩
      · rw [herased]
        refine ⟨Nat.le_refl _, rfl, fun other e he => Or.inl ?_⟩
        rcases w.cache.find?_erase key other with hother | hnone
        · exact hother ▸ he
        · exact absurd (hnone.symm.trans he) nofun
  | set key records ttl =>
    exact ⟨Nat.le_refl _, set_defaultTtl _ _ _ _ _, fun _ _ he => find?_set h he⟩
  | wait nanos => exact ⟨Nat.le_add_right _ _, rfl, fun _ _ => Or.inl⟩

theorem onward_play (h : w.cache.defaultTtl.isZero = false) (pieces : List Piece) :
    w.Onward (w.play pieces) := by
  induction pieces generalizing w with
  | nil => exact .refl w
  | cons p rest ih =>
    have hact := onward_act h p
    exact hact.trans (ih (hact.defaultTtl ▸ h))

/-! ## Reads go on -/

/-- A read keeps its key and its time until it has its answer. -/
theorem reads_act (p : Piece) (h : w.reads[n]? = some r) :
    ∃ r', (w.act p).reads[n]? = some r' ∧ (r'.about = r.about ∨ r'.about = none) := by
  have hn : n < w.reads.length := (List.getElem?_eq_some_iff.mp h).1
  -- Another read, or a read with its answer, or the read after it has looked.
  have hset : ∀ (m : Nat) (r' : Read), (n = m → r'.about = r.about ∨ r'.about = none) →
      ∃ r'', (w.reads.set m r')[n]? = some r'' ∧ (r''.about = r.about ∨ r''.about = none) := by
    intro m r' hr'
    by_cases hm : n = m
    · subst hm
      exact ⟨r', List.getElem?_set_self hn, hr' rfl⟩
    · exact ⟨r, (List.getElem?_set_ne (Ne.symm hm)).trans h, Or.inl rfl⟩
  cases p with
  | begin key => exact ⟨r, (List.getElem?_append_left hn).trans h, Or.inl rfl⟩
  | look m =>
    rcases w.look_cases m with hsame | ⟨key, asked, hbegun, hlooked⟩
    · rw [hsame]
      exact ⟨r, h, Or.inl rfl⟩
    · rw [hlooked]
      refine hset m _ fun hm => ?_
      subst hm
      obtain rfl : Read.begun key asked = r := Option.some.inj (hbegun.symm.trans h)
      exact Read.about_looked key asked _
  | remove m =>
    rcases w.remove_cases m with hsame | ⟨_, _, _, hremoved⟩
    · rw [hsame]
      exact ⟨r, h, Or.inl rfl⟩
    · rw [hremoved]
      exact hset m _ fun _ => Or.inr rfl
  | set key records ttl => exact ⟨r, h, Or.inl rfl⟩
  | wait nanos => exact ⟨r, h, Or.inl rfl⟩

theorem reads_play (pieces : List Piece) (h : w.reads[n]? = some r) :
    ∃ r', (w.play pieces).reads[n]? = some r' ∧ (r'.about = r.about ∨ r'.about = none) := by
  induction pieces generalizing w r with
  | nil => exact ⟨r, h, Or.inl rfl⟩
  | cons p rest ih =>
    obtain ⟨r', hr', habout⟩ := reads_act p h
    obtain ⟨r'', hr'', habout'⟩ := ih hr'
    refine ⟨r'', hr'', ?_⟩
    rcases habout' with hsame | hnone
    · rw [hsame]
      exact habout
    · exact Or.inr hnone

/-! ## What a read takes away -/

section Removal

variable (hlives : w.cache.defaultTtl.isZero = false)

/-- A read that comes back takes nothing away, or the entry of its key, if that had expired when the
read began. -/
theorem remove_begun (w : InUse) (key : String) (pieces : List Piece) :
    let removing := (w.act (.begin key)).play pieces
    let removed := removing.act (.remove w.reads.length)
    removed.cache = removing.cache ∨ ∃ stale, removing.cache.find? key = some stale ∧
      stale.expiresAt ≤ w.now ∧ removed.cache = removing.cache.erase key := by
  intro removing removed
  rcases removing.remove_cases w.reads.length with hsame | ⟨key', asked, hr, hremoved⟩
  · exact Or.inl (congrArg cache hsame)
  · have hbegun : (w.act (.begin key)).reads[w.reads.length]? = some (.begun key w.now) :=
      List.getElem?_concat_length
    obtain ⟨r, hr', habout⟩ := reads_play pieces hbegun
    obtain rfl : Read.expired key' asked = r := Option.some.inj (hr.symm.trans hr')
    obtain ⟨rfl, rfl⟩ : key' = key ∧ asked = w.now := by simpa [Read.about] using habout
    have hcache : removed.cache = removing.cache.eraseStale key' w.now := congrArg cache hremoved
    rw [hcache]
    exact removing.cache.eraseStale_cases key' w.now

include hlives

/-- A read takes away one entry at most, that of its key, if it had expired when the read began. It
was there all the time that the read took. -/
theorem removed_was_expired (waiting between : List Piece) :
    let seeing := (w.act (.begin key)).play waiting
    let removing := (seeing.act (.look w.reads.length)).play between
    removing.cache.find? other = some e →
      (removing.act (.remove w.reads.length)).cache.find? other = some e ∨
        other = key ∧ e.expiresAt ≤ w.now ∧ w.cache.find? key = some e ∧
          seeing.cache.find? key = some e := by
  intro seeing removing he
  have hseeing : w.Onward seeing := onward_play (w := w) hlives (.begin key :: waiting)
  have hremoving : seeing.Onward removing :=
    onward_play (w := seeing) (hseeing.defaultTtl ▸ hlives) (.look w.reads.length :: between)
  have hbegun := w.remove_begun key (waiting ++ .look w.reads.length :: between)
  rw [play_append] at hbegun
  rcases hbegun with hsame | ⟨stale, hstale, hexpired, herased⟩
  · exact Or.inl ((congrArg (find? · other) hsame).trans he)
  · by_cases hother : other = key
    · subst hother
      obtain rfl : stale = e := Option.some.inj (hstale.symm.trans he)
      have hthere : seeing.cache.find? other = some stale :=
        hremoving.was_there he (Nat.le_trans hexpired hseeing.time)
      exact Or.inr ⟨rfl, hexpired, hseeing.was_there hthere hexpired, hthere⟩
    · refine Or.inl ((congrArg (find? · other) herased).trans ?_)
      exact (find?_erase_ne _ hother).trans he

/-- A read takes nothing away if its key has been written since it looked. -/
theorem spares_what_is_set_later (waiting earlier later : List Piece) {records : List Record}
    {ttl : Span} :
    let looked := ((w.act (.begin key)).play waiting).act (.look w.reads.length)
    let writing := looked.play earlier
    let removing := looked.play (earlier ++ .set key records ttl :: later)
    (writing.cache.set key records ttl writing.now).1 = true →
      (removing.act (.remove w.reads.length)).cache = removing.cache := by
  intro looked writing removing hfits
  let written := writing.act (.set key records ttl)
  have hwriting : w.Onward writing := by
    have hall := onward_play (w := w) hlives
      (.begin key :: (waiting ++ .look w.reads.length :: earlier))
    have hsplit : w.play (.begin key :: (waiting ++ .look w.reads.length :: earlier)) = writing :=
      play_append (w.act (.begin key)) waiting (.look w.reads.length :: earlier)
    exact hsplit ▸ hall
  have hlives' : writing.cache.defaultTtl.isZero = false := hwriting.defaultTtl ▸ hlives
  have hwritten : writing.Onward written := onward_act hlives' _
  have hplay : removing = written.play later := play_append looked earlier _
  have hremoving : written.Onward removing := by
    rw [hplay]
    exact onward_play (hwritten.defaultTtl ▸ hlives') later
  -- What is there under the key was written in between, or has come later still.
  have hnew : ∀ e, removing.cache.find? key = some e → w.now < e.expiresAt := by
    intro e he
    rcases hremoving.newer key e he with hthere | hlate
    · have hset : written.cache.find? key = some _ := set_fits hfits
      obtain rfl := Option.some.inj (hset.symm.trans hthere)
      exact Nat.lt_of_le_of_lt hwriting.time
        (Nat.lt_add_of_pos_right (effectiveTtl_pos hlives' ttl))
    · exact Nat.lt_of_le_of_lt (Nat.le_trans hwriting.time hwritten.time) hlate
  have hbegun := w.remove_begun key
    (waiting ++ .look w.reads.length :: (earlier ++ .set key records ttl :: later))
  rw [play_append] at hbegun
  rcases hbegun with hsame | ⟨stale, hstale, hexpired, _⟩
  · exact hsame
  · exact absurd hexpired (Nat.not_le.mpr (hnew stale hstale))

end Removal

end InUse

end Cache

end FeedSearch
