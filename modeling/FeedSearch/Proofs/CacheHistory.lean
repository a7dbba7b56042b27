-- The cache over time, as a map whose keys expire and which has room for so many
-- entries. An entry that has expired is there until it is read or evicted, and
-- takes up room until then, but nobody can tell: what a read finds depends on
-- the writes before it and on the time alone.
import FeedSearch.Proofs.CacheEvictions

namespace FeedSearch.Cache

open Time

variable {c c' : Cache} {e : CacheEntry} {key : String} {now : Instant} {records : List Record}
  {ttl : Span}

/-! ## Histories -/

/-- What can happen to a cache: a write, a read, or that some nanoseconds pass. -/
inductive Act where
  | set (key : String) (records : List Record) (ttl : Span)
  | get (key : String)
  | wait (nanos : Nat)
  deriving DecidableEq, Repr

/-- An act, with the time and the cache before it. -/
structure Turn where
  act : Act
  now : Instant
  before : Cache

namespace Turn

/-- The cache after the act. -/
def after (t : Turn) : Cache :=
  match t.act with
  | .set key records ttl => (t.before.set key records ttl t.now).2
  | .get key => (t.before.get key t.now).2
  | .wait _ => t.before

/-- The time after the act. -/
def finish (t : Turn) : Instant :=
  match t.act with
  | .wait nanos => t.now + nanos
  | _ => t.now

/-- What a read finds. -/
def answer (t : Turn) : Option (List Record) :=
  match t.act with
  | .get key => (t.before.get key t.now).1
  | _ => none

/-- The clock can hold the time at which the entry of a write expires. -/
def Fits (t : Turn) : Prop :=
  match t.act with
  | .set _ _ ttl => t.now + (t.before.effectiveTtl ttl).toNanos ≤ lastInstant
  | _ => True

instance : DecidablePred Fits
  | ⟨.set _ _ ttl, now, before⟩ =>
    inferInstanceAs (Decidable (now + (before.effectiveTtl ttl).toNanos ≤ lastInstant))
  | ⟨.get _, _, _⟩ => .isTrue trivial
  | ⟨.wait _, _, _⟩ => .isTrue trivial

/-- The act is a write of the key. -/
def Sets (t : Turn) (key : String) : Prop := ∃ records ttl, t.act = .set key records ttl

/-- The act is a write that takes the entry of the key away. -/
def Evicts (t : Turn) (key : String) : Prop :=
  (∃ other, t.Sets other) ∧ (t.before.find? key).isSome ∧ t.after.find? key = none

/-- No write lets two entries that have not expired compete for eviction. -/
def Decided (t : Turn) : Prop := ∀ key, t.Sets key → t.before.Decided key t.now

end Turn

/-- The cache after some turns, the latest first. -/
def leftBy (start : Cache) : List Turn → Cache
  | [] => start
  | t :: _ => t.after

/-- The time after some turns. -/
def timeAfter (since : Instant) : List Turn → Instant
  | [] => since
  | t :: _ => t.finish

/-- Turns that follow each other, the latest first. Every turn finds the entries in any order, so it
may be any of those that expire first that has to go. -/
inductive History (start : Cache) (since : Instant) : List Turn → Prop
  | start : History start since []
  | turn {t : Turn} {past : List Turn} (past_history : History start since past)
      (before : (leftBy start past).Shuffled t.before) (now : t.now = timeAfter since past)
      (fits : t.Fits) : History start since (t :: past)

/-- The turn of an act that finds the entries as the turns before have left them. -/
def next (start : Cache) (since : Instant) (act : Act) (past : List Turn) : Turn :=
  { act, now := timeAfter since past, before := leftBy start past }

/-- The turns of the acts, the latest first. -/
def played (start : Cache) (since : Instant) : List Act → List Turn
  | [] => []
  | act :: earlier =>
    next start since act (played start since earlier) :: played start since earlier

theorem played_history {start : Cache} {since : Instant} (acts : List Act)
    (h : ∀ t ∈ played start since acts, t.Fits) :
    History start since (played start since acts) := by
  induction acts with
  | nil => exact .start
  | cons act earlier ih =>
    exact .turn (ih fun t ht => h t (.tail _ ht)) (.refl _) rfl (h _ (.head _))

variable {t : Turn} {past : List Turn}

namespace Turn

theorem after_set (h : t.act = .set key records ttl) :
    t.after = (t.before.set key records ttl t.now).2 := by
  simp only [after, h]

theorem after_get (h : t.act = .get key) : t.after = (t.before.get key t.now).2 := by
  simp only [after, h]

theorem answer_get (h : t.act = .get key) : t.answer = (t.before.get key t.now).1 := by
  simp only [answer, h]

theorem Fits.expiresAt (hfits : t.Fits) (h : t.act = .set key records ttl) :
    (t.before.written key records ttl t.now).expiresAt ≤ lastInstant := by
  simp only [Fits, h] at hfits
  exact hfits

theorem after_defaultTtl (t : Turn) : t.after.defaultTtl = t.before.defaultTtl := by
  unfold after
  split
  · exact set_defaultTtl _ _ _ _ _
  · exact get_defaultTtl _ _ _
  · rfl

theorem after_maxEntries (t : Turn) : t.after.maxEntries = t.before.maxEntries := by
  unfold after
  split
  · rename_i key records ttl _
    rw [set_eq]
    split
    · exact makeRoom_maxEntries _ _
    · exact makeRoom_maxEntries _ _
  · rename_i key _
    rcases t.before.get_cases key t.now with he | ⟨_, _, _, _, he⟩
    · rw [he]
    · rw [he]
      rfl
  · rfl

/-- No turn disturbs the order of a cache. -/
theorem Fits.neat (hfits : t.Fits) (h : t.before.Neat) : t.after.Neat := by
  cases hact : t.act with
  | set key records ttl =>
    rw [after_set hact]
    exact h.set (hfits.expiresAt hact)
  | get key =>
    rw [after_get hact]
    exact h.get key t.now
  | wait nanos =>
    simp only [after, hact]
    exact h

/-- A write leaves its entry. -/
theorem Fits.find?_set (hfits : t.Fits) (hact : t.act = .set key records ttl) :
    t.after.find? key = some (t.before.written key records ttl t.now) := by
  rw [after_set hact, set_eq, if_pos (hfits.expiresAt hact)]
  exact find?_put_self (t.before.makeRoom key) (t.before.written key records ttl t.now)

/-- An entry goes because a write evicts it, or because a read finds that it has expired. -/
theorem find?_after (t : Turn) (h : ¬ t.Sets key) : t.after.find? key = t.before.find? key ∨
    t.after.find? key = none ∧ (t.Evicts key ∨
      ∃ stale, t.before.find? key = some stale ∧ stale.isFresh t.now = false) := by
  cases hact : t.act with
  | set other records ttl =>
    have hne : key ≠ other := fun he => h ⟨records, ttl, he ▸ hact⟩
    rcases set_other t.before records ttl t.now hne with he | hnone
    · exact Or.inl ((congrArg (·.find? key) (after_set hact)).trans he)
    · rw [← after_set hact] at hnone
      cases hbefore : t.before.find? key with
      | none => exact Or.inl hnone
      | some e =>
        refine Or.inr ⟨hnone, Or.inl ⟨⟨other, records, ttl, hact⟩, ?_, hnone⟩⟩
        rw [hbefore]
        rfl
  | get other =>
    rw [after_get hact]
    rcases t.before.get_cases other t.now with he | ⟨_, stale, hstale, hexpired, he⟩
    · exact Or.inl (by rw [he])
    · rw [he]
      by_cases hkey : key = other
      · subst hkey
        exact Or.inr ⟨find?_erase_self _ _, Or.inr ⟨stale, hstale, hexpired⟩⟩
      · exact Or.inl (find?_erase_ne _ hkey)
  | wait nanos => exact Or.inl (by simp only [after, hact])

theorem now_le_finish (t : Turn) : t.now ≤ t.finish := by
  unfold finish
  split
  · exact Nat.le_add_right _ _
  · exact Nat.le_refl _

end Turn

/-! ## The last write of a key -/

/-- The last write of the key left this entry, and it has not been evicted since. -/
def LastWrite (log : List Turn) (key : String) (e : CacheEntry) : Prop :=
  ∃ later u earlier records ttl, log = later ++ u :: earlier ∧ u.act = .set key records ttl ∧
    e = u.before.written key records ttl u.now ∧ ∀ v ∈ later, ¬ v.Sets key ∧ ¬ v.Evicts key

theorem LastWrite.set (hact : t.act = .set key records ttl) :
    LastWrite (t :: past) key (t.before.written key records ttl t.now) :=
  ⟨[], t, past, records, ttl, rfl, hact, rfl, fun _ hv => absurd hv List.not_mem_nil⟩

theorem LastWrite.eq_written (h : LastWrite (t :: past) key e)
    (hact : t.act = .set key records ttl) : e = t.before.written key records ttl t.now := by
  obtain ⟨later, u, earlier, records', ttl', hlog, hset, rfl, hsince⟩ := h
  cases later with
  | nil =>
    obtain ⟨rfl, rfl⟩ := List.cons.inj hlog
    rw [hact] at hset
    cases hset
    rfl
  | cons v later =>
    obtain ⟨rfl, _⟩ := List.cons.inj hlog
    exact absurd ⟨records, ttl, hact⟩ (hsince t (.head _)).1

theorem lastWrite_cons (h : ¬ t.Sets key) :
    LastWrite (t :: past) key e ↔ ¬ t.Evicts key ∧ LastWrite past key e := by
  constructor
  · rintro ⟨later, u, earlier, records, ttl, hlog, hset, he, hsince⟩
    cases later with
    | nil =>
      obtain ⟨rfl, rfl⟩ := List.cons.inj hlog
      exact absurd ⟨records, ttl, hset⟩ h
    | cons v later =>
      obtain ⟨rfl, rfl⟩ := List.cons.inj hlog
      exact ⟨(hsince t (.head _)).2, later, u, earlier, records, ttl, rfl, hset, he,
        fun v hv => hsince v (.tail _ hv)⟩
  · rintro ⟨hkept, later, u, earlier, records, ttl, rfl, hset, he, hsince⟩
    refine ⟨t :: later, u, earlier, records, ttl, rfl, hset, he, fun v hv => ?_⟩
    rcases List.mem_cons.mp hv with rfl | hv
    · exact ⟨h, hkept⟩
    · exact hsince v hv

/-- The entries are those of the last writes, but for some that have expired. -/
structure Recalls (log : List Turn) (c : Cache) (now : Instant) : Prop where
  written : ∀ key e, c.find? key = some e → LastWrite log key e
  held : ∀ key e, LastWrite log key e →
    c.find? key = some e ∨ c.find? key = none ∧ e.isFresh now = false

theorem Recalls.turn (h : Recalls past t.before t.now) (hfits : t.Fits) :
    Recalls (t :: past) t.after t.finish where
  written key e he := by
    by_cases hsets : t.Sets key
    · obtain ⟨records, ttl, hact⟩ := hsets
      rw [hfits.find?_set hact] at he
      rw [← Option.some.inj he]
      exact .set hact
    · rcases t.find?_after hsets with hsame | ⟨hnone, _⟩
      · have hkept : ¬ t.Evicts key := fun hgone => by
          have hnone := hgone.2.2
          rw [he] at hnone
          cases hnone
        rw [hsame] at he
        exact (lastWrite_cons hsets).mpr ⟨hkept, h.written key e he⟩
      · rw [he] at hnone
        cases hnone
  held key e hlast := by
    by_cases hsets : t.Sets key
    · obtain ⟨records, ttl, hact⟩ := hsets
      rw [hlast.eq_written hact]
      exact Or.inl (hfits.find?_set hact)
    · obtain ⟨hkept, hlast⟩ := (lastWrite_cons hsets).mp hlast
      have hbefore := h.held key e hlast
      rcases t.find?_after hsets with hsame | ⟨hnone, hgone | ⟨stale, hstale, hexpired⟩⟩
      · rw [hsame]
        exact hbefore.imp_right fun hold =>
          ⟨hold.1, CacheEntry.isFresh_later hold.2 t.now_le_finish⟩
      · exact absurd hgone hkept
      · rw [hstale] at hbefore
        refine Or.inr ⟨hnone, ?_⟩
        rcases hbefore with hsame | ⟨hnone, _⟩
        · rw [← Option.some.inj hsame]
          exact CacheEntry.isFresh_later hexpired t.now_le_finish
        · cases hnone

theorem Recalls.shuffled (h : Recalls past c now) (hneat : c.Neat) (hs : c.Shuffled c') :
    Recalls past c' now where
  written key e he := h.written key e ((hneat.find?_shuffled hs key).symm.trans he)
  held key e hlast := by
    rw [hneat.find?_shuffled hs key]
    exact h.held key e hlast

/-! ## What holds of every history -/

/-- What holds of the cache at the end of a history. -/
structure Sound (start : Cache) (log : List Turn) (c : Cache) (now : Instant) : Prop where
  neat : c.Neat
  defaultTtl : c.defaultTtl = start.defaultTtl
  maxEntries : c.maxEntries = start.maxEntries
  recalls : Recalls log c now

variable {start : Cache} {since : Instant} {log log' : List Turn}

theorem Sound.shuffled (h : Sound start log c now) (hs : c.Shuffled c') :
    Sound start log c' now where
  neat := h.neat.shuffled hs
  defaultTtl := hs.defaultTtl.trans h.defaultTtl
  maxEntries := hs.maxEntries.trans h.maxEntries
  recalls := h.recalls.shuffled h.neat hs

theorem Sound.turn (h : Sound start past t.before t.now) (hfits : t.Fits) :
    Sound start (t :: past) t.after t.finish where
  neat := hfits.neat h.neat
  defaultTtl := t.after_defaultTtl.trans h.defaultTtl
  maxEntries := t.after_maxEntries.trans h.maxEntries
  recalls := h.recalls.turn hfits

theorem empty_neat (defaultTtl : Span) (maxEntries : Nat) : (empty defaultTtl maxEntries).Neat :=
  ⟨List.nodup_nil, Nat.zero_le _, Nat.lt_of_lt_of_le Nat.one_pos (Nat.le_max_right _ _)⟩

theorem History.sound (hstart : start.Neat) (hempty : start.entries = [])
    (h : History start since log) :
    Sound start log (leftBy start log) (timeAfter since log) := by
  induction h with
  | start =>
    refine ⟨hstart, rfl, rfl, fun key e he => ?_, fun key e hlast => ?_⟩
    · simp [leftBy, find?, hempty] at he
    · obtain ⟨later, u, earlier, _, _, hlog, _⟩ := hlast
      exact absurd hlog.symm (by simp)
  | turn _ before now fits ih =>
    rw [← now] at ih
    exact (ih.shuffled before).turn fits

/-- The cache and the time before the latest turn. -/
theorem History.before (hstart : start.Neat) (hempty : start.entries = [])
    (h : History start since (t :: past)) : Sound start past t.before t.now ∧ t.Fits := by
  cases h with
  | turn hpast before now fits =>
    rw [now]
    exact ⟨(hpast.sound hstart hempty).shuffled before, fits⟩

/-! ## Two histories -/

/-- An act that is no read. -/
def Act.isChange : Act → Bool
  | .get _ => false
  | _ => true

/-- The writes and the waits of a history. -/
def changes (log : List Turn) : List Act := (log.map (·.act)).filter Act.isChange

theorem changes_get (h : t.act = .get key) : changes (t :: past) = changes past := by
  simp [changes, h, Act.isChange]

theorem changes_change (h : t.act.isChange = true) :
    changes (t :: past) = t.act :: changes past := by
  simp [changes, h]

theorem Act.eq_get {act : Act} (h : act.isChange = false) : ∃ key, act = .get key := by
  cases act with
  | get key => exact ⟨key, rfl⟩
  | set key records ttl => cases h
  | wait nanos => cases h

/-- Two histories are at one time, and leave caches that hold the same as far as it can be told. -/
structure Agree (start : Cache) (since : Instant) (log log' : List Turn) : Prop where
  time : timeAfter since log' = timeAfter since log
  fresh : SameFresh (timeAfter since log) (leftBy start log) (leftBy start log')

theorem Agree.symm (h : Agree start since log log') : Agree start since log' log :=
  ⟨h.time.symm, h.time ▸ h.fresh.symm⟩

theorem Agree.read (h : Agree start since past log') (hstart : start.Neat)
    (hempty : start.entries = []) (hlog : History start since (t :: past))
    (hact : t.act = .get key) : Agree start since (t :: past) log' := by
  have hneat := (hlog.before hstart hempty).1.neat
  cases hlog with
  | turn _ before now _ =>
    have htime : timeAfter since (t :: past) = timeAfter since past := by
      simp only [timeAfter, Turn.finish, hact]
      exact now
    refine ⟨h.time.trans htime.symm, fun e hfresh => ?_⟩
    rw [htime] at hfresh
    have hread := hneat.sameFresh_get key t.now e (now ▸ hfresh)
    rw [before.entries.mem_iff, ← Turn.after_get hact] at hread
    exact hread.symm.trans (h.fresh e hfresh)

/-- A read in the other history. -/
theorem Agree.readOther {t' : Turn} {past' : List Turn} (h : Agree start since log past')
    (hstart : start.Neat) (hempty : start.entries = [])
    (hlog : History start since (t' :: past')) (hact : t'.act = .get key) :
    Agree start since log (t' :: past') :=
  (h.symm.read hstart hempty hlog hact).symm

theorem Agree.change {t' : Turn} {past' : List Turn} (h : Agree start since past past')
    (hstart : start.Neat) (hempty : start.entries = [])
    (hlog : History start since (t :: past)) (hlog' : History start since (t' :: past'))
    (hact : t'.act = t.act) (hchange : t.act.isChange = true) (hdecided : t.Decided) :
    Agree start since (t :: past) (t' :: past') := by
  obtain ⟨hsound, hfits⟩ := hlog.before hstart hempty
  obtain ⟨hsound', _⟩ := hlog'.before hstart hempty
  cases hlog with
  | turn _ before now _ =>
  cases hlog' with
  | turn _ before' now' _ =>
    have hnow : t'.now = t.now := now'.trans (h.time.trans now.symm)
    have hfresh : SameFresh t.now t.before t'.before := now ▸ h.fresh.shuffled before before'
    cases hset : t.act with
    | get key =>
      rw [hset] at hchange
      cases hchange
    | wait nanos =>
      have hset' := hact.trans hset
      refine ⟨by simp only [timeAfter, Turn.finish, hset, hset', hnow], ?_⟩
      simp only [timeAfter, leftBy, Turn.finish, Turn.after, hset, hset']
      exact hfresh.later (Nat.le_add_right _ _)
    | set key records ttl =>
      have hset' := hact.trans hset
      refine ⟨by simp only [timeAfter, Turn.finish, hset, hset', hnow], ?_⟩
      simp only [timeAfter, leftBy, Turn.finish, Turn.after, hset, hset', hnow]
      exact hfresh.set hsound.neat hsound'.neat (hsound'.maxEntries.trans hsound.maxEntries.symm)
        (hsound'.defaultTtl.trans hsound.defaultTtl.symm) (hdecided key ⟨records, ttl, hset⟩)
        (hfits.expiresAt hset)

/-- Histories that differ in their reads at most agree. -/
theorem History.agree (hstart : start.Neat) (hempty : start.entries = [])
    (h : History start since log) (h' : History start since log')
    (hsame : changes log = changes log') (hdecided : ∀ t ∈ log, t.Decided) :
    Agree start since log log' := by
  induction h generalizing log' with
  | start =>
    induction h' with
    | start => exact ⟨rfl, fun _ _ => Iff.rfl⟩
    | @turn t' past' hpast' before' now' fits' ih' =>
      cases hchange : t'.act.isChange with
      | true =>
        rw [changes_change hchange] at hsame
        cases hsame
      | false =>
        obtain ⟨key, hact⟩ := Act.eq_get hchange
        have hagree := ih' (hsame.trans (changes_get hact))
        exact hagree.readOther hstart hempty (.turn hpast' before' now' fits') hact
  | @turn t past hpast before now fits ih =>
    cases hchange : t.act.isChange with
    | false =>
      obtain ⟨key, hact⟩ := Act.eq_get hchange
      rw [changes_get hact] at hsame
      have hagree := ih h' hsame fun u hu => hdecided u (.tail _ hu)
      exact hagree.read hstart hempty (.turn hpast before now fits) hact
    | true =>
      rw [changes_change hchange] at hsame
      induction h' with
      | start => cases hsame
      | @turn t' past' hpast' before' now' fits' ih' =>
        cases hchange' : t'.act.isChange with
        | false =>
          obtain ⟨key, hact⟩ := Act.eq_get hchange'
          have hagree := ih' (hsame.trans (changes_get hact))
          exact hagree.readOther hstart hempty (.turn hpast' before' now' fits') hact
        | true =>
          rw [changes_change hchange'] at hsame
          obtain ⟨hact, hrest⟩ := List.cons.inj hsame
          have hagree := ih hpast' hrest fun u hu => hdecided u (.tail _ hu)
          exact hagree.change hstart hempty (.turn hpast before now fits)
            (.turn hpast' before' now' fits') hact.symm hchange (hdecided t (.head _))

theorem History.of_append (later : List Turn) (h : History start since (later ++ log)) :
    History start since log := by
  induction later with
  | nil => exact h
  | cons t later ih =>
    cases h with
    | turn hpast _ _ _ => exact ih hpast

/-! ## The law -/

/-- What a read finds, told by the history. -/
theorem History.answer_eq_some (hstart : start.Neat) (hempty : start.entries = [])
    (h : History start since (t :: past)) (hact : t.act = .get key) :
    t.answer = some records ↔ ∃ later u earlier ttl, past = later ++ u :: earlier ∧
      u.act = .set key records ttl ∧ t.now < u.now + (start.effectiveTtl ttl).toNanos ∧
      ∀ v ∈ later, ¬ v.Sets key ∧ ¬ v.Evicts key := by
  obtain ⟨hsound, _⟩ := h.before hstart hempty
  rw [Turn.answer_get hact, hsound.neat.get_eq_some]
  have hpast : History start since past := h.of_append [t]
  have httl : ∀ later u earlier ttl, past = later ++ u :: earlier →
      u.before.effectiveTtl ttl = start.effectiveTtl ttl := by
    intro later u earlier ttl hlog
    rw [hlog] at hpast
    have hu := ((hpast.of_append later).before hstart hempty).1
    simp only [effectiveTtl, hu.defaultTtl]
  constructor
  · rintro ⟨e, hmem, hkey, hfresh, hrecords⟩
    obtain ⟨later, u, earlier, records', ttl, hlog, hset, rfl, hsince⟩ :=
      hsound.recalls.written key e (hsound.neat.find?_eq_some.mpr ⟨hmem, hkey⟩)
    obtain rfl : records' = records := hrecords
    refine ⟨later, u, earlier, ttl, hlog, hset, ?_, hsince⟩
    rw [← httl later u earlier ttl hlog]
    exact of_decide_eq_true hfresh
  · rintro ⟨later, u, earlier, ttl, hlog, hset, hlt, hsince⟩
    have hlast : LastWrite past key (u.before.written key records ttl u.now) :=
      ⟨later, u, earlier, records, ttl, hlog, hset, rfl, hsince⟩
    have hfresh : (u.before.written key records ttl u.now).isFresh t.now = true := by
      rw [← httl later u earlier ttl hlog] at hlt
      exact decide_eq_true hlt
    rcases hsound.recalls.held key _ hlast with hfind | ⟨_, hexpired⟩
    · obtain ⟨hmem, hkey⟩ := hsound.neat.find?_eq_some.mp hfind
      exact ⟨_, hmem, hkey, hfresh, rfl⟩
    · rw [hfresh] at hexpired
      cases hexpired

/-- What a read finds, whatever else has been read before. -/
theorem History.answer_eq {t' : Turn} {past' : List Turn} (hstart : start.Neat)
    (hempty : start.entries = []) (h : History start since (t :: past))
    (h' : History start since (t' :: past')) (hact : t.act = .get key) (hact' : t'.act = .get key)
    (hsame : changes past = changes past') (hdecided : ∀ u ∈ past, u.Decided) :
    t'.answer = t.answer := by
  have hneat := (h.before hstart hempty).1.neat
  have hneat' := (h'.before hstart hempty).1.neat
  cases h with
  | turn hpast before now _ =>
  cases h' with
  | turn hpast' before' now' _ =>
    have hagree := hpast.agree hstart hempty hpast' hsame hdecided
    have hnow : t'.now = t.now := now'.trans (hagree.time.trans now.symm)
    have hfresh : SameFresh t.now t.before t'.before :=
      now ▸ hagree.fresh.shuffled before before'
    rw [Turn.answer_get hact, Turn.answer_get hact', hnow]
    exact hfresh.get_eq hneat hneat' key

/-- What a write takes away: one entry, if the key is new and the cache is full, and else none but
that of the key. -/
theorem Turn.Fits.evicts_soonest (hfits : t.Fits) (h : t.before.Neat) (hsets : t.Sets key) :
    (∃ gone, t.before.Victim key gone ∧
        ∀ e ∈ t.before.entries, e ∈ t.after.entries ↔ e ≠ gone) ∨
      (t.before.find? key = none → t.before.size < t.before.maxEntries) ∧
        ∀ e ∈ t.before.entries, e.key ≠ key → e ∈ t.after.entries := by
  obtain ⟨records, ttl, hact⟩ := hsets
  rw [after_set hact]
  rcases h.makeRoom_cases key with ⟨hroom, he⟩ | ⟨gone, hgone, he⟩
  · refine Or.inr ⟨hroom, fun e hmem hkey => ?_⟩
    rw [mem_set (hfits.expiresAt hact), he]
    exact Or.inr ⟨hmem, hkey⟩
  · refine Or.inl ⟨gone, hgone, fun e hmem => ?_⟩
    have hkey : e.key ≠ key := find?_eq_none.mp hgone.absent e hmem
    have hnew : e ≠ t.before.written key records ttl t.now := fun hw => hkey (congrArg (·.key) hw)
    rw [mem_set (hfits.expiresAt hact), he, mem_erase]
    constructor
    · rintro (hw | ⟨⟨_, hne⟩, _⟩)
      · exact absurd hw hnew
      · exact fun hsame => hne (congrArg (·.key) hsame)
    · intro hne
      exact Or.inr ⟨⟨hmem, fun hsame =>
        hne (List.inj_on_of_nodup_map h.keys hmem hgone.mem hsame)⟩, hkey⟩

/-- At every turn of every history of a cache that was empty:
a read finds the records of the last write of its key exactly if the time to live of that write is
not over and the entry has not been evicted since, and else it finds nothing;
it finds the same if other reads are made or left out before it, as long as no two entries that have
not expired compete for eviction; there are never more entries than there is room for; and a write
evicts exactly one entry, one that expires first, if its key is new and the cache is full, so it
evicts none that has not expired while there is one that has, and else it evicts nothing. -/
theorem a_read_finds_the_last_write_of_its_key (defaultTtl : Span) (maxEntries : Nat)
    (since : Instant) (t : Turn) (past : List Turn)
    (h : History (.empty defaultTtl maxEntries) since (t :: past)) :
    (∀ key, t.act = .get key →
      (∀ records, t.answer = some records ↔ ∃ later u earlier ttl, past = later ++ u :: earlier ∧
        u.act = .set key records ttl ∧
        t.now < u.now + ((empty defaultTtl maxEntries).effectiveTtl ttl).toNanos ∧
        ∀ v ∈ later, ¬ v.Sets key ∧ ¬ v.Evicts key) ∧
      ∀ t' past', History (.empty defaultTtl maxEntries) since (t' :: past') →
        t'.act = .get key → changes past = changes past' → (∀ u ∈ past, u.Decided) →
        t'.answer = t.answer) ∧
    t.after.size ≤ max 1 maxEntries ∧
    ∀ key, t.Sets key →
      (∃ gone, t.before.Victim key gone ∧
          (∀ e ∈ t.before.entries, e ∈ t.after.entries ↔ e ≠ gone) ∧
          (gone.isFresh t.now = true → ∀ e ∈ t.before.entries, e.isFresh t.now = true)) ∨
        (t.before.find? key = none → t.before.size < max 1 maxEntries) ∧
          ∀ e ∈ t.before.entries, e.key ≠ key → e ∈ t.after.entries := by
  have hstart := empty_neat defaultTtl maxEntries
  obtain ⟨hbefore, hfits⟩ := h.before hstart rfl
  have hafter := h.sound hstart rfl
  have hmax : (empty defaultTtl maxEntries).maxEntries = max 1 maxEntries := Nat.max_comm _ _
  refine ⟨fun key hact => ⟨fun records => h.answer_eq_some hstart rfl hact,
    fun t' past' h' hact' hsame hdecided => h.answer_eq hstart rfl h' hact hact' hsame hdecided⟩,
    ?_, fun key hsets => ?_⟩
  · rw [← hmax, ← hafter.maxEntries]
    exact hafter.neat.size_le
  · rcases hfits.evicts_soonest hbefore.neat hsets with ⟨gone, hgone, hrest⟩ | ⟨hroom, hrest⟩
    · exact Or.inl ⟨gone, hgone, hrest, fun hfresh => hgone.all_fresh hfresh⟩
    · rw [hbefore.maxEntries, hmax] at hroom
      exact Or.inr ⟨hroom, hrest⟩

def nanoseconds (n : Nat) (h : n < nanosPerSecond := by decide) : Span := ⟨0, n, h⟩

/-- Two entries fill a cache. The first expires, and two more are written, the last for the standard
time. -/
def crowding : List Act :=
  [.set "d" [.unseen "notes" "4" "d"] .zero, .set "c" [.unseen "notes" "3" "c"] (nanoseconds 20),
    .wait 15, .set "b" [.unseen "notes" "2" "b"] (nanoseconds 30),
    .set "a" [.unseen "notes" "1" "a"] (nanoseconds 10)]

/-- The same, but the entry that has expired is read in between, and so removed. -/
def crowdingRead : List Act :=
  [.set "d" [.unseen "notes" "4" "d"] .zero, .set "c" [.unseen "notes" "3" "c"] (nanoseconds 20),
    .get "a", .wait 15, .set "b" [.unseen "notes" "2" "b"] (nanoseconds 30),
    .set "a" [.unseen "notes" "1" "a"] (nanoseconds 10)]

/-- Where the third write evicts the first entry, or finds room, the last evicts the second, and the
third is found. -/
theorem an_expired_entry_is_in_nobodys_way :
    let start := empty (nanoseconds 40) 2
    let found := next start 0 (.get "c") (played start 0 crowding)
    let foundRead := next start 0 (.get "c") (played start 0 crowdingRead)
    found.answer = some [.unseen "notes" "3" "c"] ∧ foundRead.answer = found.answer ∧
      (next start 0 (.get "b") (played start 0 crowding)).answer = none ∧
      found.after.size ≤ 2 := by
  intro start found foundRead
  have hhistory : History start 0 (found :: played start 0 crowding) :=
    played_history (.get "c" :: crowding) (by decide +kernel)
  have hhistoryRead : History start 0 (foundRead :: played start 0 crowdingRead) :=
    played_history (.get "c" :: crowdingRead) (by decide +kernel)
  have hdecided : ∀ u ∈ played start 0 crowding, u.Decided := by
    have hnodup : ∀ u ∈ played start 0 crowding, (u.before.entries.map (·.expiresAt)).Nodup := by
      decide +kernel
    exact fun u hu key _ => decided_of_nodup (hnodup u hu) key u.now
  obtain ⟨hreads, hsize, _⟩ := a_read_finds_the_last_write_of_its_key (nanoseconds 40) 2 0 found
    (played start 0 crowding) hhistory
  obtain ⟨hanswer, hsame⟩ := hreads "c" rfl
  have hkept : ∀ v ∈ [next start 0 (.set "d" [.unseen "notes" "4" "d"] .zero)
      (played start 0 (crowding.drop 1))], ¬ v.Sets "c" ∧ ¬ v.Evicts "c" := by
    intro v hv
    obtain rfl := List.mem_singleton.mp hv
    constructor
    · rintro ⟨records, ttl, hact⟩
      exact absurd (Act.set.inj hact).1 (by decide)
    · rintro ⟨_, _, hgone⟩
      exact absurd hgone (by decide +kernel)
  refine ⟨(hanswer _).mpr ⟨_, _, _, _, rfl, rfl, by decide +kernel, hkept⟩, ?_, by decide +kernel,
    hsize⟩
  exact hsame foundRead (played start 0 crowdingRead) hhistoryRead rfl (by decide +kernel) hdecided

end FeedSearch.Cache
