-- The pages that are shown. The pages of a list, one after another, are the list,
-- and each is as long as exact numbers say, though its place is computed in counts
-- that stop at the largest of 64 bits. So the numbers of every response fit its
-- items, however the search went and whatever other searches did meanwhile.
import FeedSearch.Proofs.CacheTransparency
import FeedSearch.Proofs.LastingIds

namespace FeedSearch.Search

open Fetch

variable {α : Type}

/-! ## The pages of a list -/

/-- The pages are enough for the items, and no page is empty. -/
theorem pageCount_le_iff (total pageSize n : Nat) (h : 1 ≤ pageSize) :
    pageCount total pageSize ≤ n ↔ total ≤ n * pageSize := by
  have hsize : ¬(pageSize == 0) = true := by simp; omega
  rw [pageCount, if_neg hsize, ← Nat.lt_succ_iff, Nat.div_lt_iff_lt_mul h, Nat.succ_mul]
  omega

theorem flatMap_pages {all : List α} (h : all.length ≤ Number.maxCount) {pageSize : Nat}
    (hsize : 1 ≤ pageSize) :
    (List.range (pageCount all.length pageSize)).flatMap
      (fun i => paginate all (i + 1) pageSize) = all := by
  have hall := (pageCount_le_iff all.length pageSize _ hsize).mp (Nat.le_refl _)
  rw [flatMap_paginate h, List.take_of_length_le hall]

theorem paginate_length {all : List α} (h : all.length ≤ Number.maxCount) {page : Nat}
    (hpage : 1 ≤ page) (pageSize : Nat) :
    (paginate all page pageSize).length = min pageSize (all.length - (page - 1) * pageSize) := by
  obtain ⟨n, rfl⟩ : ∃ n, page = n + 1 := ⟨page - 1, by omega⟩
  rw [paginate_succ h, List.length_take, List.length_drop, Nat.add_sub_cancel]

theorem paginate_ne_nil_iff {all : List α} (h : all.length ≤ Number.maxCount) {page pageSize : Nat}
    (hpage : 1 ≤ page) (hsize : 1 ≤ pageSize) :
    paginate all page pageSize ≠ [] ↔ page ≤ pageCount all.length pageSize := by
  have hbefore := pageCount_le_iff all.length pageSize (page - 1) hsize
  rw [← List.length_pos_iff, paginate_length h hpage]
  omega

/-! ## Numbers that fit -/

/-- A request for a page of an admitted size. -/
structure Admitted (limits : PageLimits) (r : Request) : Prop where
  page : 1 ≤ r.page
  pageSize : 1 ≤ r.pageSize
  largest : r.pageSize ≤ max 1 limits.maxPageSize

theorem normalize_admitted (limits : PageLimits) (r : Request) :
    Admitted limits (normalize limits r) := by
  constructor
  · simp only [normalize, beq_iff_eq]
    split <;> omega
  · simp only [normalize, PageLimits.pageSize, beq_iff_eq]
    split <;> omega
  · simp only [normalize, PageLimits.pageSize]
    omega

/-- A response whose items are as many as its numbers say: the page is within the limits, and
exactly the pages from one to the number of pages hold something. -/
structure Response.Fits (limits : PageLimits) (response : Response) : Prop where
  page : 1 ≤ response.page
  pageSize : 1 ≤ response.pageSize
  largest : response.pageSize ≤ max 1 limits.maxPageSize
  totalPages : response.totalPages = pageCount response.total response.pageSize
  length : response.items.length =
    min response.pageSize (response.total - (response.page - 1) * response.pageSize)
  shown : response.items ≠ [] ↔ response.page ≤ response.totalPages

theorem Response.fits_ofAll {limits : PageLimits} {all : List Record} {r : Request}
    (hr : Admitted limits r) (h : all.length ≤ Number.maxCount) :
    (Response.ofAll all r).Fits limits where
  page := hr.page
  pageSize := hr.pageSize
  largest := hr.largest
  totalPages := rfl
  length := paginate_length h hr.page r.pageSize
  shown := paginate_ne_nil_iff h hr.page hr.pageSize

/-! ## Searches -/

/-- A list that 64 bits can count. -/
def Countable (all : List Record) : Prop := all.length ≤ Number.maxCount

/-- What a search is about is admitted, and what it shows at its end fits. -/
def Stage.Paged (limits : PageLimits) : Stage → Prop
  | .lookup r => Admitted limits r
  | .fetching r => Admitted limits r
  | .upserting r _ => Admitted limits r
  | .reading r => Admitted limits r
  | .completing r items total => (Response.of items total r.page r.pageSize).Fits limits
  | .caching r items total all =>
    (Response.of items total r.page r.pageSize).Fits limits ∧ Countable all
  | .finished (.found response _) => response.Fits limits
  | .finished _ => True

namespace Coordinator

variable {limits : PageLimits} {c c' : Coordinator} {s : Stage} {r : Request}

/-- A search on a coordinator with these limits, whose cached lists can be counted. -/
structure Paging (limits : PageLimits) (c : Coordinator) (s : Stage) : Prop where
  bounds : c.limits = limits
  cached : c.cache.Lists Countable
  paged : s.Paged limits

theorem paged_of_fetch (hr : Admitted limits r) (hs : s = .finished .crashed ∨
    (∃ e, s = .finished (.failed e)) ∨ s = .reading r ∨ ∃ batch, s = .upserting r batch) :
    s.Paged limits := by
  rcases hs with rfl | ⟨_, rfl⟩ | rfl | ⟨_, rfl⟩
  · trivial
  · trivial
  · exact hr
  · exact hr

theorem Paging.lookup (h : Paging limits c (.lookup r)) :
    Paging limits (c.stepLookup r).2 (c.stepLookup r).1 := by
  rcases stepLookup_cases c r with ⟨e, _, hfound, _, he⟩ | ⟨cache, _, hnone, hwithin, he⟩
  · rw [he]
    exact ⟨h.bounds, h.cached, Response.fits_ofAll h.paged (h.cached _ e hfound)⟩
  · rw [he]
    refine ⟨h.bounds, h.cached.of_key hwithin.others fun e hsome => ?_, h.paged⟩
    rw [hnone] at hsome
    cases hsome

theorem Paging.upsert {batch : List Record} (h : Paging limits c (.upserting r batch)) :
    Paging limits (c.stepUpsert r batch).2 (c.stepUpsert r batch).1 := by
  rcases stepUpsert_cases c r batch with ⟨_, _, _, he⟩ | ⟨_, _, _, he⟩
  · rw [he]
    exact ⟨h.bounds, h.cached, trivial⟩
  · rw [he]
    exact ⟨h.bounds, h.cached, h.paged⟩

/-- What is read is a page of all hits, and they are no more than the rows. -/
theorem Paging.read (h : Paging limits c (.reading r)) (hrows : c.rows.size ≤ Number.maxCount) :
    Paging limits (c.stepRead r).2 (c.stepRead r).1 := by
  have hcount : Countable (c.rows.hits r) := Nat.le_trans (c.rows.hits_length_le r) hrows
  have hfits := Response.fits_ofAll h.paged hcount
  obtain ⟨_, _, ⟨_, he⟩ | ⟨_, he⟩ | he⟩ := stepRead_cases c r
  · rw [he]
    exact ⟨h.bounds, h.cached, trivial⟩
  · rw [he]
    exact ⟨h.bounds, h.cached, hfits, hcount⟩
  · rw [he]
    exact ⟨h.bounds, h.cached, hfits⟩

theorem Paging.complete {items : List Record} {total : Nat}
    (h : Paging limits c (.completing r items total)) :
    Paging limits (c.stepComplete r items total).2 (c.stepComplete r items total).1 := by
  obtain ⟨_, _, he | he⟩ := stepComplete_cases c r items total
  · rw [he]
    exact ⟨h.bounds, h.cached, h.paged⟩
  · rw [he]
    exact ⟨h.bounds, h.cached, h.paged, paginate_length_le ..⟩

theorem Paging.cache {items all : List Record} {total : Nat}
    (h : Paging limits c (.caching r items total all)) :
    Paging limits (c.stepCache r items total all).2 (c.stepCache r items total all).1 := by
  obtain ⟨hfits, hall⟩ := h.paged
  have hcached := h.cached.set hall (cacheKey r) c.cacheTtl c.clock.running
  rcases hset : c.cache.set (cacheKey r) all c.cacheTtl c.clock.running with ⟨wrote, cache⟩
  rw [hset] at hcached
  cases wrote with
  | written =>
    simp only [stepCache, hset]
    exact ⟨h.bounds, hcached, hfits⟩
  | failed =>
    simp only [stepCache, hset]
    exact ⟨h.bounds, hcached, hfits⟩
  | overflow =>
    simp only [stepCache, hset]
    exact ⟨h.bounds, hcached, trivial⟩

theorem Paging.step (h : Paging limits c s) (hrows : c.rows.size ≤ Number.maxCount)
    (cancel : Cancel) : Paging limits (c.step cancel s).2 (c.step cancel s).1 := by
  cases s with
  | lookup r => exact h.lookup
  | fetching r =>
    obtain ⟨_, _, _, he, hs⟩ := stepFetch_cases c cancel r
    simp only [Coordinator.step, he]
    exact ⟨h.bounds, h.cached, paged_of_fetch h.paged hs⟩
  | upserting r batch => exact h.upsert
  | reading r => exact h.read hrows
  | completing r items total => exact h.complete
  | caching r items total all => exact h.cache
  | finished outcome => exact h

/-- The same for a turn in which the providers bring any result. -/
theorem Paging.turn (h : Paging limits c s) (hrows : c.rows.size ≤ Number.maxCount)
    (result : Result) : Paging limits (c.turn result s).2 (c.turn result s).1 := by
  unfold Coordinator.turn
  split
  · rename_i r
    obtain ⟨_, _, he, hs⟩ := afterFetch_cases c r result
    rw [he]
    exact ⟨h.bounds, h.cached, paged_of_fetch h.paged hs⟩
  · exact h.step hrows .never

/-! ## Rows are never taken away -/

theorem size_le_step (c : Coordinator) (cancel : Cancel) (s : Stage) :
    c.rows.size ≤ (c.step cancel s).2.rows.size := by
  cases hr : s.request? with
  | none => exact (step_within c cancel s (r := default) fun r' h => by simp [hr] at h).size
  | some r => exact (step_within c cancel s (r := r) fun r' h => by simpa [hr] using h.symm).size

theorem size_le_turn (c : Coordinator) (result : Result) (s : Stage) :
    c.rows.size ≤ (c.turn result s).2.rows.size := by
  unfold Coordinator.turn
  split
  · rename_i r
    obtain ⟨_, _, he, _⟩ := afterFetch_cases c r result
    rw [he]
  · exact c.size_le_step .never _

theorem size_le_run (c : Coordinator) (cancel : Cancel) (s : Stage) (n : Nat) :
    c.rows.size ≤ (c.run cancel s n).2.rows.size := by
  induction n generalizing c s with
  | zero => exact Nat.le_refl _
  | succ n ih =>
    rw [run_succ]
    exact Nat.le_trans (c.size_le_step cancel s) (ih _ _)

theorem Paging.run (h : Paging limits c s) (cancel : Cancel) (n : Nat)
    (hrows : (c.run cancel s n).2.rows.size ≤ Number.maxCount) :
    Paging limits (c.run cancel s n).2 (c.run cancel s n).1 := by
  induction n generalizing c s with
  | zero => exact h
  | succ n ih =>
    have hnow := Nat.le_trans (c.size_le_run cancel s (n + 1)) hrows
    rw [run_succ] at hrows ⊢
    exact ih (h.step hnow cancel) hrows

end Coordinator

/-! ## A service in use -/

namespace Service

open Coordinator

variable {limits : PageLimits} {s : Service}

theorem size_le_meet (s : Service) (event : Event) :
    s.shared.rows.size ≤ (s.meet event).shared.rows.size := by
  cases event with
  | start r => exact Nat.le_refl _
  | turn number result =>
    rcases hn : s.searches[number]? with _ | stage
    · simp only [meet, hn, Nat.le_refl]
    · simp only [meet, hn]
      exact s.shared.size_le_turn result stage
  | search r cancel =>
    exact s.shared.size_le_run cancel (.lookup (normalize s.shared.limits r)) maxStages
  | upsert batch =>
    rcases StoreLink.upsert_store s.shared.store batch with ⟨_, _, hsame⟩ | ⟨_, _, hwritten⟩
    · exact Nat.le_of_eq (congrArg Store.size hsame.symm)
    · exact Store.upsert_size hwritten
  | change orchestrator clock metrics => exact Nat.le_refl _

theorem size_le_run (s : Service) (events : List Event) :
    s.shared.rows.size ≤ (s.run events).shared.rows.size := by
  induction events generalizing s with
  | nil => exact Nat.le_refl _
  | cons event rest ih => exact Nat.le_trans (s.size_le_meet event) (ih _)

/-- All searches, over or under way, are paged as they should be. -/
structure Paged (limits : PageLimits) (s : Service) : Prop where
  bounds : s.shared.limits = limits
  cached : s.shared.cache.Lists Countable
  searches : ∀ stage ∈ s.searches, stage.Paged limits

theorem Paged.paging (h : s.Paged limits) {stage : Stage} (hstage : stage.Paged limits) :
    Paging limits s.shared stage := ⟨h.bounds, h.cached, hstage⟩

theorem Paged.turn (h : s.Paged limits) (number : Nat) (result : Result)
    (hrows : s.shared.rows.size ≤ Number.maxCount) :
    (s.meet (.turn number result)).Paged limits := by
  rcases hn : s.searches[number]? with _ | stage
  · simp only [meet, hn]
    exact h
  · have hstage := h.searches stage (List.mem_of_getElem? hn)
    have hturn := (h.paging hstage).turn hrows result
    simp only [meet, hn]
    refine ⟨hturn.bounds, hturn.cached, fun other hother => ?_⟩
    rcases List.mem_or_eq_of_mem_set hother with hother | rfl
    · exact h.searches other hother
    · exact hturn.paged

theorem Paged.search (h : s.Paged limits) (r : Request) (cancel : Cancel)
    (hrows : (s.meet (.search r cancel)).shared.rows.size ≤ Number.maxCount) :
    (s.meet (.search r cancel)).Paged limits := by
  have hfirst : (Stage.lookup (normalize s.shared.limits r)).Paged limits :=
    h.bounds ▸ normalize_admitted s.shared.limits r
  have hrun := (h.paging hfirst).run cancel maxStages hrows
  rw [run_finished s.shared cancel _ (n := maxStages) (Nat.le_refl _)] at hrun
  refine ⟨hrun.bounds, hrun.cached, fun stage hstage => ?_⟩
  rcases List.mem_append.mp hstage with hstage | hstage
  · exact h.searches stage hstage
  · rw [List.mem_singleton.mp hstage]
    exact hrun.paged

theorem Paged.meet (h : s.Paged limits) (event : Event)
    (hrows : (s.meet event).shared.rows.size ≤ Number.maxCount) :
    (s.meet event).Paged limits := by
  have hnow := Nat.le_trans (s.size_le_meet event) hrows
  cases event with
  | start r =>
    refine ⟨h.bounds, h.cached, fun stage hstage => ?_⟩
    rcases List.mem_append.mp hstage with hstage | hstage
    · exact h.searches stage hstage
    · rw [List.mem_singleton.mp hstage]
      exact h.bounds ▸ normalize_admitted s.shared.limits r
  | turn number result => exact h.turn number result hnow
  | search r cancel => exact h.search r cancel hrows
  | upsert batch => exact ⟨h.bounds, h.cached, h.searches⟩
  | change orchestrator clock metrics => exact ⟨h.bounds, h.cached, h.searches⟩

theorem Paged.run (h : s.Paged limits) (events : List Event)
    (hrows : (s.run events).shared.rows.size ≤ Number.maxCount) :
    (s.run events).Paged limits := by
  induction events generalizing s with
  | nil => exact h
  | cons event rest ih =>
    have hnext := h.meet event (Nat.le_trans ((s.meet event).size_le_run rest) hrows)
    exact ih hnext hrows

end Service

/-! ## The law -/

/-- The pages of a list that 64 bits can count, from the first to the last that is counted, are the
list; every page, however far, has as many items as exact numbers say, and has some exactly if it
is counted. So the numbers of every response fit its items, from the cache or not, whatever is asked
for, whatever the limits are and whatever happens to the service meanwhile. Rows and cached lists
are counted in 64 bits. -/
theorem the_pages_of_a_list_tile_it :
    (∀ (α : Type) (all : List α) (pageSize : Nat), all.length ≤ Number.maxCount → 1 ≤ pageSize →
      (List.range (pageCount all.length pageSize)).flatMap
        (fun i => paginate all (i + 1) pageSize) = all ∧
      ∀ page, 1 ≤ page →
        (paginate all page pageSize).length =
          min pageSize (all.length - (page - 1) * pageSize) ∧
        (paginate all page pageSize ≠ [] ↔ page ≤ pageCount all.length pageSize)) ∧
    ∀ (c : Coordinator) (events : List Event), c.cache.Lists Countable →
      ((Service.of c).run events).shared.rows.size ≤ Number.maxCount →
      ∀ response status, .finished (.found response status) ∈ ((Service.of c).run events).searches →
        response.Fits c.limits := by
  refine ⟨fun α all pageSize hcount hsize => ⟨flatMap_pages hcount hsize, fun page hpage => ?_⟩,
    fun c events hcached hrows response status hfound => ?_⟩
  · exact ⟨paginate_length hcount hpage pageSize, paginate_ne_nil_iff hcount hpage hsize⟩
  · have hstart : (Service.of c).Paged c.limits := ⟨rfl, hcached, nofun⟩
    exact (hstart.run events hrows).searches _ hfound

/-- A coordinator that shows two hits at a time, though its default page would hold five. -/
def narrow : Coordinator := { twoNotes with limits := ⟨5, 2⟩ }

/-- A search for a page of the default size, and one for a page as far away as can be. -/
def nearAndFar : List Event :=
  [.search (.ofQuery "forest") .never,
    .search { Request.ofQuery "forest" with page := Number.maxCount, pageSize := 9 } .never]

/-- The first page is the last one too and holds the one hit. The far page, whose place is beyond 64
bits, is cut from the cached list and is empty. -/
theorem a_far_page_is_empty :
    let s := (Service.of narrow).run nearAndFar
    let near := Response.mk [{ note "2" "a forest" with id := some 2 }] 1 1 2 1
    let far := Response.mk [] 1 Number.maxCount 2 1
    .finished (.found near .miss) ∈ s.searches ∧ near.Fits ⟨5, 2⟩ ∧
      .finished (.found far .hit) ∈ s.searches ∧ far.Fits ⟨5, 2⟩ ∧
      (paginate [1, 2, 3] Number.maxCount Number.maxCount).length = 0 := by
  intro s near far
  obtain ⟨htile, hfits⟩ := the_pages_of_a_list_tile_it
  have hcached : narrow.cache.Lists Countable := fun _ _ h => by cases h
  have hrows : s.shared.rows.size ≤ Number.maxCount := by decide +kernel
  have hnear : .finished (.found near .miss) ∈ s.searches := by decide +kernel
  have hfar : .finished (.found far .hit) ∈ s.searches := by decide +kernel
  refine ⟨hnear, hfits narrow nearAndFar hcached hrows _ _ hnear, hfar,
    hfits narrow nearAndFar hcached hrows _ _ hfar, ?_⟩
  obtain ⟨_, hpages⟩ := htile Nat [1, 2, 3] Number.maxCount (by decide) (by decide)
  exact (hpages Number.maxCount (by decide)).1.trans (by decide)

end FeedSearch.Search
