-- The laws of the cache over a whole run of searches: what is served from the
-- cache is what the search that filled it would itself have answered.
import FeedSearch.Proofs.SearchStages

namespace FeedSearch.Search

open Fetch

/-! ## Runs -/

/-- What a coordinator goes through: a search, or a pause in which time goes by, the time of day is
set anew, and the providers change in any way. -/
inductive Happening where
  | search (r : Request) (cancel : Cancel)
  | pause (nanos : Nat) (wall : Time.Moment) (orchestrator : Orchestrator)

/-- A search of a run: the coordinator that it met, and what it was asked. -/
structure Visit where
  before : Coordinator
  request : Request
  cancel : Cancel

namespace Visit

/-- The request within its limits. -/
def normal (v : Visit) : Request := normalize v.before.limits v.request

def key (v : Visit) : String := cacheKey v.normal

def outcome (v : Visit) : Outcome := (v.before.search v.request v.cancel).1

def after (v : Visit) : Coordinator := (v.before.search v.request v.cancel).2

/-- When the search started. -/
def start (v : Visit) : Instant := v.before.clock.running

/-- When the search ended. -/
def finish (v : Visit) : Instant := v.after.clock.running

/-- The rows right after the batch of the search has been written: its third stage at the latest
writes them. -/
def stored (v : Visit) : Store := (v.before.run v.cancel (.lookup v.normal) 3).2.rows

/-- What the search would have answered from those rows for another page. -/
def answer (v : Visit) (page pageSize : Nat) : Response :=
  v.stored.answer { v.normal with page, pageSize }

/-- Whether the search was served from the cache. -/
def isHit (v : Visit) : Bool :=
  match v.outcome with
  | .found _ .hit => true
  | _ => false

end Visit

/-- The coordinator after a pause. -/
def Coordinator.pause (c : Coordinator) (nanos : Nat) (wall : Time.Moment)
    (orchestrator : Orchestrator) : Coordinator :=
  { c with orchestrator, clock := { running := c.clock.running + nanos, wall } }

/-- The searches of a run, one after another. -/
def visits (c : Coordinator) : List Happening → List Visit
  | [] => []
  | .search r cancel :: rest => ⟨c, r, cancel⟩ :: visits (c.search r cancel).2 rest
  | .pause nanos wall orchestrator :: rest => visits (c.pause nanos wall orchestrator) rest

/-- The latest search for a key that was not served from the cache, whether or not it succeeded. -/
def lastMiss (past : List Visit) (key : String) : Option Visit :=
  past.reverse.find? fun v => !v.isHit && v.key == key

theorem lastMiss_hit {past : List Visit} {v : Visit} (h : v.isHit = true) (key : String) :
    lastMiss (past ++ [v]) key = lastMiss past key := by
  simp [lastMiss, h]

theorem lastMiss_miss {past : List Visit} {v : Visit} (h : v.isHit = false) :
    lastMiss (past ++ [v]) v.key = some v := by
  simp [lastMiss, h]

theorem lastMiss_other {past : List Visit} {v : Visit} {key : String} (h : key ≠ v.key) :
    lastMiss (past ++ [v]) key = lastMiss past key := by
  simp [lastMiss, Ne.symm h]

/-! ## The invariant -/

/-- An entry comes from the latest search for its key that was not served from the cache: that
search succeeded, and the entry holds all its hits and expires a lifetime after its end. -/
def ComesFrom (life : Nat) (past : List Visit) (key : String) (e : CacheEntry) : Prop :=
  ∃ m, lastMiss past key = some m ∧
    m.outcome = .found (m.answer m.normal.page m.normal.pageSize) .miss ∧
    e.records = m.stored.hits m.normal ∧ e.expiresAt = m.finish + life

/-- Every entry of the cache comes from a search of the past. -/
def Linked (life : Nat) (past : List Visit) (c : Coordinator) : Prop :=
  c.ttl = life ∧ ∀ key e, c.cache.find? key = some e → ComesFrom life past key e

theorem Linked.nothingNew {life : Nat} {past : List Visit} {c c' : Coordinator} {key : String}
    {e : CacheEntry} (h : Linked life past c) (hn : CacheLink.NothingNew c.cache c'.cache key)
    (he : c'.cache.find? key = some e) : ComesFrom life past key e := by
  rcases hn with hn | hn
  · exact h.2 key e (hn ▸ he)
  · rw [hn] at he; cases he

theorem Visit.within (v : Visit) : Coordinator.Within v.key v.before v.after :=
  Coordinator.search_within v.before v.request v.cancel

theorem Visit.stored_eq (v : Visit) : v.stored = v.after.rows :=
  (Coordinator.search_rows v.before v.request v.cancel).symm

/-- A search that was served from the cache. -/
theorem Linked.hit {life : Nat} {past : List Visit} {v : Visit} (h : Linked life past v.before)
    (hhit : v.isHit = true) (hsame : v.after.cache = v.before.cache) :
    Linked life (past ++ [v]) v.after := by
  refine ⟨v.within.ttl.trans h.1, fun key e he => ?_⟩
  rw [hsame] at he
  obtain ⟨m, hm, hrest⟩ := h.2 key e he
  exact ⟨m, by rw [lastMiss_hit hhit, hm], hrest⟩

/-- The entry that a search leaves under its own key, if it was not served from the cache. -/
theorem comesFrom_miss {past : List Visit} {v : Visit} {e : CacheEntry}
    (hended : Coordinator.Ended v.normal v.after v.outcome) (hmiss : v.isHit = false)
    (he : v.after.cache.find? v.key = some e) :
    ComesFrom v.after.ttl (past ++ [v]) v.key e := by
  refine ⟨v, lastMiss_miss hmiss, ?_⟩
  rcases ho : v.outcome with ⟨response, status⟩ | error | _
  · cases status with
    | hit => simp [Visit.isHit, ho] at hmiss
    | miss =>
      rw [ho] at hended
      obtain ⟨hr, hnone | hsome⟩ := hended
      · rw [show v.after.cache.find? v.key = none from hnone] at he; cases he
      · rw [show v.after.cache.find? v.key = _ from hsome] at he
        cases he
        rw [hr, ← v.stored_eq]
        exact ⟨rfl, rfl, rfl⟩
  · rw [ho] at hended
    rw [show v.after.cache.find? v.key = none from hended] at he; cases he
  · rw [ho] at hended
    rw [show v.after.cache.find? v.key = none from hended] at he; cases he

/-- A search keeps the invariant, if its rows can be counted. -/
theorem Linked.visit {life : Nat} {past : List Visit} {v : Visit} (h : Linked life past v.before)
    (hfit : v.after.rows.size ≤ Number.maxCount) : Linked life (past ++ [v]) v.after := by
  rcases Coordinator.search_cases v.before v.request v.cancel hfit with
    ⟨_, _, _, hsame, ho⟩ | hended
  · exact h.hit (by simp [Visit.isHit, Visit.outcome, ho]) hsame
  · have hmiss : v.isHit = false := by
      unfold Visit.isHit Visit.outcome
      split
      · rename_i ho; rw [ho] at hended; exact absurd hended not_false
      · rfl
    refine ⟨v.within.ttl.trans h.1, fun key e he => ?_⟩
    by_cases hk : key = v.key
    · subst hk
      have hlife : v.after.ttl = life := v.within.ttl.trans h.1
      exact hlife ▸ comesFrom_miss hended hmiss he
    · obtain ⟨m, hm, hrest⟩ := h.nothingNew (v.within.others key hk) he
      exact ⟨m, by rw [lastMiss_other hk, hm], hrest⟩

/-- Every search of a run meets a cache whose entries come from the searches before it. -/
theorem visits_linked {life : Nat} (happenings : List Happening) (c : Coordinator)
    (past earlier later : List Visit) (v : Visit) (h : Linked life past c)
    (hfit : ∀ v ∈ visits c happenings, v.after.rows.size ≤ Number.maxCount)
    (hv : visits c happenings = earlier ++ v :: later) :
    Linked life (past ++ earlier) v.before := by
  induction happenings generalizing c past earlier with
  | nil => simp [visits] at hv
  | cons happening rest ih =>
    cases happening with
    | pause nanos wall orchestrator =>
      -- A pause leaves the cache and the time to live, which is all the invariant speaks of.
      exact ih (c.pause nanos wall orchestrator) past earlier h hfit hv
    | search r cancel =>
      simp only [visits, List.mem_cons, forall_eq_or_imp] at hfit hv
      cases earlier with
      | nil =>
        obtain ⟨rfl, _⟩ := List.cons.inj hv
        simpa using h
      | cons first earlier =>
        obtain ⟨rfl, hrest⟩ := List.cons.inj hv
        have := ih _ (past ++ [⟨c, r, cancel⟩]) earlier
          (Linked.visit (v := ⟨c, r, cancel⟩) h hfit.1) hfit.2 hrest
        simpa using this

/-! ## The law -/

/-- A search that is served from the cache shows what the latest search for its key that was not
would itself have shown: that one succeeded, less than a lifetime ago, and from the rows right after
its batch it would have answered just so, had it been asked for the same page. Rows are counted in
64 bits. -/
theorem a_hit_shows_what_its_miss_would_have_shown (c : Coordinator) (defaultTtl : Time.Span)
    (maxEntries : Nat) (hc : c.cache = .memory (.empty defaultTtl maxEntries))
    (happenings : List Happening)
    (hfit : ∀ v ∈ visits c happenings, v.after.rows.size ≤ Number.maxCount)
    (earlier later : List Visit) (v : Visit) (hv : visits c happenings = earlier ++ v :: later)
    (response : Response) (hhit : v.outcome = .found response .hit) :
    ∃ m, lastMiss earlier v.key = some m ∧
      m.outcome = .found (m.answer m.normal.page m.normal.pageSize) .miss ∧
      v.start < m.finish + ((Cache.empty defaultTtl maxEntries).effectiveTtl c.cacheTtl).toNanos ∧
      response = m.answer v.normal.page v.normal.pageSize := by
  have hstart : Linked c.ttl [] c := ⟨rfl, fun key e he => by rw [hc] at he; cases he⟩
  have hlife : c.ttl = ((Cache.empty defaultTtl maxEntries).effectiveTtl c.cacheTtl).toNanos := by
    rw [Coordinator.ttl, hc]
    rfl
  have hlinked := visits_linked happenings c [] earlier later v hstart hfit hv
  have hmem : v ∈ visits c happenings := by simp [hv]
  rcases Coordinator.search_cases v.before v.request v.cancel (hfit v hmem) with
    ⟨e, he, hfresh, _, ho⟩ | hended
  · obtain ⟨m, hm, hout, hrecords, hexpires⟩ := hlinked.2 _ e he
    refine ⟨m, hm, hout, ?_, ?_⟩
    · rw [← hlife, ← hexpires]
      exact of_decide_eq_true hfresh
    · rw [Visit.outcome, ho] at hhit
      cases hhit
      rw [hrecords]
      rfl
  · rw [show (v.before.search v.request v.cancel).1 = _ from hhit] at hended
    exact absurd hended not_false

/-! ## A run in which it holds -/

def note (providerId title : String) : Record := .unseen "notes" providerId title

/-- A coordinator whose one provider has two notes and takes five milliseconds. -/
def twoNotes : Coordinator where
  orchestrator := (Orchestrator.new (.empty .standard) .longest).register
    (.scripted "notes" [⟨5, .records [note "1" "a meadow", note "2" "a forest"]⟩] false 0)
  store := .reliable .empty
  cache := .memory .standard
  scorer := constantScorer .zero
  limits := .standard
  cacheTtl := .zero
  clock := ⟨0, ⟨0, 0⟩⟩
  metrics := .empty

def forestPage (page : Nat) : Request := { Request.ofQuery " Forest" with page, pageSize := 1 }

/-- The search for a page that is empty, which fills the cache. -/
def emptyPageVisit : Visit := ⟨twoNotes, forestPage 2, .never⟩

/-- The search for the page with the hit, a moment later. -/
def fullPageVisit : Visit :=
  ⟨emptyPageVisit.after.pause 7 ⟨0, 0⟩ emptyPageVisit.after.orchestrator, forestPage 1, .never⟩

/-- A search for a second page fills the cache, from which the first page is then served. -/
theorem a_first_page_is_served_after_a_second :
    fullPageVisit.outcome =
        .found (.of [{ note "2" "a forest" with id := some 2 }] 1 1 1) .hit ∧
      ∃ m, lastMiss [emptyPageVisit] fullPageVisit.key = some m ∧
        m.outcome = .found (m.answer m.normal.page m.normal.pageSize) .miss ∧
        fullPageVisit.start < m.finish + (Cache.standard.effectiveTtl twoNotes.cacheTtl).toNanos ∧
        Response.of [{ note "2" "a forest" with id := some 2 }] 1 1 1 =
          m.answer fullPageVisit.normal.page fullPageVisit.normal.pageSize := by
  have hhit : fullPageVisit.outcome =
      .found (.of [{ note "2" "a forest" with id := some 2 }] 1 1 1) .hit := by decide +kernel
  refine ⟨hhit, ?_⟩
  refine a_hit_shows_what_its_miss_would_have_shown twoNotes Cache.standardTtl 1000 rfl
    [.search (forestPage 2) .never, .pause 7 ⟨0, 0⟩ emptyPageVisit.after.orchestrator,
      .search (forestPage 1) .never] ?_ [emptyPageVisit] [] fullPageVisit rfl _ hhit
  intro v hv
  have hvisits : v = emptyPageVisit ∨ v = fullPageVisit := by
    simp only [visits, List.mem_cons, List.not_mem_nil, or_false] at hv
    exact hv
  rcases hvisits with rfl | rfl
  · decide +kernel
  · decide +kernel

end FeedSearch.Search
