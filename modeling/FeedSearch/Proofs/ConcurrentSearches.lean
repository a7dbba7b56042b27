-- Searches at once on one coordinator, in any order of their stages. A search
-- counts its hits in one call to the store and reads all of them in another,
-- and the batch of another search can be written between the two.
import FeedSearch.Proofs.ResultOrder
import FeedSearch.Proofs.SearchStages

namespace FeedSearch.Search

open Fetch

/-! ## Searches that take turns -/

/-- One stage of a search. If it waits for its providers, they bring `result`. -/
def Coordinator.turn (c : Coordinator) (result : Result) : Stage → Stage × Coordinator
  | .fetching r => c.afterFetch r result
  | s => c.step .never s

/-- A search under way: the times at which it started, first read from the store and last did so. -/
structure Running where
  since : Nat
  firstRead : Nat
  lastRead : Nat
  stage : Stage

/-- A list that a search has written to the cache, and when. -/
structure Write where
  request : Request
  records : List Record
  since : Nat
  firstRead : Nat
  lastRead : Nat
  till : Nat
  deriving DecidableEq, Repr

namespace Running

/-- The search after a turn that it took at the time `now`. -/
def next (s : Running) (now : Nat) (stage : Stage) : Running :=
  match s.stage with
  | .reading _ => { s with stage, firstRead := now, lastRead := now }
  | .completing _ _ _ => { s with stage, lastRead := now }
  | _ => { s with stage }

/-- What a search writes in a turn at the time `now`. -/
def writes (s : Running) (now : Nat) : List Write :=
  match s.stage with
  | .caching r _ _ all => [⟨r, all, s.since, s.firstRead, s.lastRead, now⟩]
  | _ => []

end Running

/-- A coordinator with its searches, the rows at every time so far, and all that has been written
to the cache. -/
structure Crowd where
  shared : Coordinator
  past : List Store
  searches : List Running
  writes : List Write

/-- What can happen: a search starts, the search with a number takes a turn, or the providers, the
clock and the metrics change in any way. -/
inductive Act where
  | start (r : Request)
  | turn (number : Nat) (result : Result)
  | change (orchestrator : Orchestrator) (clock : Clock) (metrics : Metrics)

namespace Crowd

/-- A coordinator on which nobody searches yet. -/
def of (c : Coordinator) : Crowd := { shared := c, past := [c.rows], searches := [], writes := [] }

/-- The time: every turn takes one. -/
def now (w : Crowd) : Nat := w.past.length - 1

def act (w : Crowd) : Act → Crowd
  | .start r => { w with
      searches := w.searches ++ [⟨w.now, w.now, w.now, .lookup (normalize w.shared.limits r)⟩] }
  | .turn number result =>
    match w.searches[number]? with
    | none => w
    | some s =>
      let (stage, shared) := w.shared.turn result s.stage
      { shared
        past := w.past ++ [shared.rows]
        searches := w.searches.set number (s.next w.now stage)
        writes := w.writes ++ s.writes w.now }
  | .change orchestrator clock metrics => { w with
      shared := { w.shared with orchestrator, clock, metrics } }

/-- All that happens, in order. -/
def play (w : Crowd) (acts : List Act) : Crowd := acts.foldl act w

end Crowd

/-! ## Two reads -/

/-- A list holds the first hits of the time of the last read, as many as there were at the time of
the first. A list can be as long as 64 bits can count. -/
def Counted (past : List Store) (x : Write) : Prop :=
  x.since ≤ x.firstRead ∧ x.firstRead ≤ x.lastRead ∧ x.lastRead ≤ x.till ∧
    ∃ first second, past[x.firstRead]? = some first ∧ past[x.lastRead]? = some second ∧
      x.records = (second.hits x.request).take (saturate (first.hits x.request).length)

/-- What holds of a search that reads its hits. -/
def Running.Reads (past : List Store) (s : Running) : Prop :=
  match s.stage with
  | .completing r _ total => s.since ≤ s.firstRead ∧
      ∃ u, past[s.firstRead]? = some u ∧ total = (u.hits r).length
  | .caching r _ _ all => Counted past ⟨r, all, s.since, s.firstRead, s.lastRead, past.length - 1⟩
  | _ => True

theorem getElem?_past {past : List Store} {t : Nat} {u : Store} (h : past[t]? = some u)
    (later : List Store) : (past ++ later)[t]? = some u := by
  obtain ⟨hlt, _⟩ := List.getElem?_eq_some_iff.mp h
  rw [List.getElem?_append_left hlt, h]

theorem Counted.later {past : List Store} {x : Write} (h : Counted past x) (later : List Store)
    {till : Nat} (ht : x.till ≤ till) : Counted (past ++ later) { x with till } := by
  obtain ⟨hi, hj, hle, first, second, hfirst, hsecond, hrecords⟩ := h
  exact ⟨hi, hj, Nat.le_trans hle ht, first, second, getElem?_past hfirst later,
    getElem?_past hsecond later, hrecords⟩

namespace Running

theorem Reads.later {past : List Store} {s : Running} (h : s.Reads past) (later : List Store) :
    s.Reads (past ++ later) := by
  unfold Reads at h ⊢
  split
  · rename_i he
    rw [he] at h
    obtain ⟨hs, u, hu, htotal⟩ := h
    exact ⟨hs, u, getElem?_past hu later, htotal⟩
  · rename_i he
    rw [he] at h
    exact Counted.later h later (by simp only [List.length_append]; omega)
  · exact True.intro

/-- A turn keeps what holds of the search that takes it. -/
theorem Reads.turn {past : List Store} {s : Running} {c : Coordinator} (h : s.Reads past)
    (hs : s.since ≤ past.length - 1) (hc : past[past.length - 1]? = some c.rows)
    (result : Result) : (s.next (past.length - 1) (c.turn result s.stage).1).Reads past := by
  rcases s with ⟨since, firstRead, lastRead, stage⟩
  cases stage with
  | lookup r =>
    rcases c.stepLookup_cases r with ⟨_, _, _, _, he⟩ | ⟨_, _, _, _, he⟩
    · simp only [next, Coordinator.turn, Coordinator.step, he]; exact True.intro
    · simp only [next, Coordinator.turn, Coordinator.step, he]; exact True.intro
  | fetching r =>
    obtain ⟨_, _, _, he | ⟨_, he⟩ | he | ⟨_, he⟩⟩ := c.afterFetch_cases r result
    all_goals
      simp only [next, Coordinator.turn, he]
      exact True.intro
  | upserting r batch =>
    rcases c.stepUpsert_cases r batch with ⟨_, _, _, he⟩ | ⟨_, _, _, he⟩
    · simp only [next, Coordinator.turn, Coordinator.step, he]; exact True.intro
    · simp only [next, Coordinator.turn, Coordinator.step, he]; exact True.intro
  | reading r =>
    obtain ⟨_, _, ⟨_, he⟩ | ⟨hall, he⟩ | he⟩ := c.stepRead_cases r
    · simp only [next, Coordinator.turn, Coordinator.step, he]; exact True.intro
    · simp only [next, Coordinator.turn, Coordinator.step, he]
      have hfit : (c.rows.hits r).length ≤ Number.maxCount := by
        rw [← hall]
        exact paginate_length_le _ _ _
      exact ⟨hs, Nat.le_refl _, Nat.le_refl _, c.rows, c.rows, hc, hc, by
        rw [saturate_of_le hfit, List.take_length]⟩
    · simp only [next, Coordinator.turn, Coordinator.step, he]
      exact ⟨hs, c.rows, hc, rfl⟩
  | completing r items total =>
    obtain ⟨hfirst, u, hu, rfl⟩ := h
    obtain ⟨_, _, he | he⟩ := c.stepComplete_cases r items (u.hits r).length
    · simp only [next, Coordinator.turn, Coordinator.step, he]; exact True.intro
    · simp only [next, Coordinator.turn, Coordinator.step, he]
      obtain ⟨hlt, _⟩ := List.getElem?_eq_some_iff.mp hu
      exact ⟨hfirst, Nat.le_sub_one_of_lt hlt, Nat.le_refl _, u, c.rows, hu, hc, paginate_one _ _⟩
  | caching r items total all =>
    obtain ⟨_, _, ⟨_, he⟩ | ⟨_, he | he⟩⟩ := c.stepCache_cases r items total all
    all_goals
      simp only [next, Coordinator.turn, Coordinator.step, he]
      exact True.intro
  | finished outcome => exact True.intro

theorem next_since (s : Running) (now : Nat) (stage : Stage) :
    (s.next now stage).since = s.since := by
  unfold next
  split <;> rfl

/-- What a search writes, it has read before. -/
theorem Reads.writes {past : List Store} {s : Running} (h : s.Reads past) {x : Write}
    (hx : x ∈ s.writes (past.length - 1)) : Counted past x := by
  unfold Running.writes at hx
  split at hx
  · rename_i he
    unfold Reads at h
    rw [he] at h
    obtain rfl := List.mem_singleton.mp hx
    exact h
  · exact absurd hx List.not_mem_nil

end Running

/-! ## The invariant -/

/-- The present is the end of the past, no search started later than now, and every search and every
write has read what it should. -/
structure Crowd.Sound (w : Crowd) : Prop where
  present : w.past[w.now]? = some w.shared.rows
  started : ∀ s ∈ w.searches, s.since ≤ w.now
  reads : ∀ s ∈ w.searches, s.Reads w.past
  written : ∀ x ∈ w.writes, Counted w.past x

namespace Crowd.Sound

theorem of (c : Coordinator) : (Crowd.of c).Sound where
  present := rfl
  started _ h := nomatch h
  reads _ h := nomatch h
  written _ h := nomatch h

theorem start {w : Crowd} (h : w.Sound) (r : Request) : (w.act (.start r)).Sound where
  present := h.present
  started s hs := by
    rcases List.mem_append.mp hs with hs | hs
    · exact h.started s hs
    · obtain rfl := List.mem_singleton.mp hs
      exact Nat.le_refl _
  reads s hs := by
    rcases List.mem_append.mp hs with hs | hs
    · exact h.reads s hs
    · obtain rfl := List.mem_singleton.mp hs
      exact True.intro
  written := h.written

theorem turn {w : Crowd} (h : w.Sound) (number : Nat) (result : Result) :
    (w.act (.turn number result)).Sound := by
  rcases hn : w.searches[number]? with _ | s
  · simp only [act, hn]
    exact h
  · have hmem : s ∈ w.searches := List.mem_of_getElem? hn
    have hread := (h.reads s hmem).turn (h.started s hmem) h.present result
    simp only [act, hn]
    -- The search that takes its turn keeps what it has read; all others only see a longer past.
    refine ⟨by simp [now], fun s' hs => ?_, fun s' hs => ?_, fun x hx => ?_⟩
    · have hle : s'.since ≤ w.now := by
        rcases List.mem_or_eq_of_mem_set hs with hs | rfl
        · exact h.started s' hs
        · rw [Running.next_since]
          exact h.started s hmem
      simp only [now, List.length_append, List.length_singleton] at hle ⊢
      omega
    · rcases List.mem_or_eq_of_mem_set hs with hs | rfl
      · exact (h.reads s' hs).later _
      · exact hread.later _
    · rcases List.mem_append.mp hx with hx | hx
      · exact (h.written x hx).later _ (Nat.le_refl _)
      · exact ((h.reads s hmem).writes hx).later _ (Nat.le_refl _)

theorem act {w : Crowd} (h : w.Sound) (a : Act) : (w.act a).Sound := by
  cases a with
  | start r => exact h.start r
  | turn number result => exact h.turn number result
  | change orchestrator clock metrics => exact ⟨h.present, h.started, h.reads, h.written⟩

theorem play {w : Crowd} (h : w.Sound) (acts : List Act) : (w.play acts).Sound := by
  induction acts generalizing w with
  | nil => exact h
  | cons a rest ih => exact ih (h.act a)

end Crowd.Sound

/-! ## The law -/

/-- In every order of turns, a search writes the first hits of the time of its last read, as many as
it had counted in its first: all hits of that time, unless there have come to be more of them. -/
theorem a_written_list_is_whole_unless_hits_came_between (c : Coordinator) (acts : List Act)
    (x : Write) (hx : x ∈ ((Crowd.of c).play acts).writes) :
    x.since ≤ x.firstRead ∧ x.firstRead ≤ x.lastRead ∧ x.lastRead ≤ x.till ∧
      ∃ first second, ((Crowd.of c).play acts).past[x.firstRead]? = some first ∧
        ((Crowd.of c).play acts).past[x.lastRead]? = some second ∧
        x.records = (second.hits x.request).take (saturate (first.hits x.request).length) ∧
        (x.records = second.hits x.request ↔
          (second.hits x.request).length ≤ saturate (first.hits x.request).length) := by
  obtain ⟨hi, hj, hle, first, second, hfirst, hsecond, hrecords⟩ :=
    ((Crowd.Sound.of c).play acts).written x hx
  refine ⟨hi, hj, hle, first, second, hfirst, hsecond, hrecords, ?_⟩
  rw [hrecords]
  refine ⟨fun h => ?_, List.take_of_length_le⟩
  have hlength := congrArg List.length h
  rw [List.length_take] at hlength
  omega

/-! ## A batch between the two reads -/

/-- The last turns of the first search. Between its two reads the second search writes its batch. -/
def crossing : List Act :=
  [.turn 0 (.records []), .turn 1 (.records []), .turn 0 (.records []), .turn 0 (.records [])]

/-- Whatever the first search counts and the second one adds, the first writes no more than it has
counted. -/
theorem play_crossing {c : Coordinator} (past : List Store) {first other : Running}
    {r r' : Request} {batch : List Record} {ids : List Int} {second : Store}
    (hin : c.store.InReach) (hfirst : first.stage = .reading r)
    (hother : other.stage = .upserting r' batch)
    (hr : Coordinator.coversAll r (c.rows.search r).1 (c.rows.search r).2 = false)
    (hu : c.rows.upsert batch = .ok (ids, second)) :
    ∃ shared searches, Crowd.play ⟨c, past ++ [c.rows], [first, other], []⟩ crossing =
      ⟨shared, past ++ [c.rows, c.rows, second, second, second], searches,
        [⟨r, (second.hits r).take (saturate (c.rows.hits r).length), first.since, past.length,
          past.length + 2, past.length + 3⟩]⟩ := by
  obtain ⟨l₁, h₁, hs₁, hin₁⟩ := hin.search r
  have hu₁ : l₁.store.upsert batch = .ok (ids, second) := by rw [hs₁]; exact hu
  obtain ⟨l₂, h₂, hs₂, hin₂⟩ := hin₁.upsert hu₁
  obtain ⟨l₃, h₃, hs₃, _⟩ := hin₂.search { r with page := 1, pageSize := (c.rows.search r).2 }
  -- The write to the cache leaves the rows, so the key of the entry need not be computed.
  have hlast := Coordinator.step_rows { c with store := l₃ } .never
    (s := .caching r (c.rows.search r).1 (c.rows.search r).2
      (paginate (second.hits r) 1 (c.rows.search r).2)) (Nat.le_add_left 1 2)
  rw [← paginate_one]
  simp [Crowd.play, crossing, Crowd.act, Crowd.now, hfirst, hother, Running.next, Running.writes,
    Coordinator.turn, Coordinator.step, Coordinator.stepRead, h₁, hr, Coordinator.stepUpsert, h₂,
    hs₂, Coordinator.stepComplete, h₃]
  exact ⟨⟨hs₁, hs₂, hs₃.trans hs₂, hlast.trans (hs₃.trans hs₂)⟩, rfl⟩

/-- A coordinator with no providers and no records. -/
def quiet : Coordinator where
  orchestrator := Orchestrator.new (.empty .standard) .longest
  store := .reliable .empty
  cache := .memory .standard
  scorer := constantScorer .zero
  limits := .standard
  cacheTtl := .zero
  clock := ⟨0, ⟨0, 0⟩⟩
  metrics := .empty

/-- A post that has been seen so often. -/
def post (providerId : String) (views : UInt64) : Record :=
  { Record.unseen "posts" providerId "b" with views }

/-- The row of a post. -/
def postRow (id : Int) (views : UInt64) : Record :=
  { post (toString id) views with id := some id }

def twoPosts : Store where
  lastId := 2
  byId := [(1, postRow 1 5), (2, postRow 2 3)]
  byKey := [((postRow 1 5).naturalKey, 1), ((postRow 2 3).naturalKey, 2)]

def threePosts : Store where
  lastId := 3
  byId := [(1, postRow 1 5), (2, postRow 2 3), (3, postRow 3 9)]
  byKey := [((postRow 1 5).naturalKey, 1), ((postRow 2 3).naturalKey, 2),
    ((postRow 3 9).naturalKey, 3)]

/-- A request for the post that has been seen most. -/
def topPost : Request :=
  { Request.ofQuery "b" with page := 1, pageSize := 1, sortBy := .popularity }

theorem twoPosts_hits : twoPosts.hits topPost = [postRow 1 5, postRow 2 3] :=
  Store.hits_eq_of_perm (by decide +kernel) (by decide +kernel)

theorem threePosts_hits :
    threePosts.hits topPost = [postRow 3 9, postRow 1 5, postRow 2 3] :=
  Store.hits_eq_of_perm (by decide +kernel) (by decide +kernel)

/-- Two searches start. The first has written its two posts, the second has one to write. -/
def opening : List Act :=
  [.start topPost, .start (.ofQuery ""), .turn 0 (.records []), .turn 1 (.records []),
    .turn 0 (.records [post "1" 5, post "2" 3]), .turn 1 (.records [post "3" 9]),
    .turn 0 (.records [])]

/-- The post that has been seen least is never written to the cache. -/
theorem play_opening_crossing : ∃ shared searches,
    (Crowd.of quiet).play (opening ++ crossing) =
      ⟨shared, List.replicate 5 .empty ++ [twoPosts, twoPosts, threePosts, threePosts, threePosts],
        searches, [⟨topPost, [postRow 3 9, postRow 1 5], 0, 5, 7, 8⟩]⟩ := by
  have hpage : Coordinator.coversAll topPost (twoPosts.search topPost).1
      (twoPosts.search topPost).2 = false := by
    simp only [Store.search, twoPosts_hits]
    rfl
  obtain ⟨shared, other, hopen, hin, hrows, hother⟩ : ∃ shared other,
      (Crowd.of quiet).play opening = ⟨shared, List.replicate 5 .empty ++ [shared.rows],
        [⟨0, 0, 0, .reading topPost⟩, other], []⟩ ∧
      shared.store.InReach ∧ shared.rows = twoPosts ∧
      other.stage = .upserting (normalize .standard (.ofQuery "")) [post "3" 9] :=
    ⟨_, _, rfl, fun _ _ => rfl, rfl, rfl⟩
  have hfirst : (⟨0, 0, 0, .reading topPost⟩ : Running).stage = .reading topPost := rfl
  have hu : shared.rows.upsert [post "3" 9] = .ok ([3], threePosts) := by rw [hrows]; rfl
  rw [← hrows] at hpage
  have hcut := play_crossing (List.replicate 5 .empty) hin hfirst hother hpage hu
  rw [← hopen, hrows, twoPosts_hits, threePosts_hits] at hcut
  rw [Crowd.play, List.foldl_append]
  exact hcut

/-- The two times at which the first search has read. -/
theorem a_crossed_search_reads_at_two_times :
    ∃ x ∈ ((Crowd.of quiet).play (opening ++ crossing)).writes,
      x.firstRead < x.lastRead ∧ ∃ first second,
        ((Crowd.of quiet).play (opening ++ crossing)).past[x.firstRead]? = some first ∧
        ((Crowd.of quiet).play (opening ++ crossing)).past[x.lastRead]? = some second ∧
        x.records = (second.hits x.request).take (saturate (first.hits x.request).length) := by
  obtain ⟨_, _, hplay⟩ := play_opening_crossing
  have hx : ⟨topPost, [postRow 3 9, postRow 1 5], 0, 5, 7, 8⟩ ∈
      ((Crowd.of quiet).play (opening ++ crossing)).writes := by rw [hplay]; exact .head _
  obtain ⟨_, _, _, first, second, hfirst, hsecond, hrecords, _⟩ :=
    a_written_list_is_whole_unless_hits_came_between quiet (opening ++ crossing) _ hx
  exact ⟨_, hx, by decide, first, second, hfirst, hsecond, hrecords⟩

/-- What the first search writes is at no time the list of all hits. -/
theorem a_batch_between_two_reads_leaves_hits_out :
    ∃ x ∈ ((Crowd.of quiet).play (opening ++ crossing)).writes,
      ∀ u ∈ ((Crowd.of quiet).play (opening ++ crossing)).past, x.records ≠ u.hits x.request := by
  have hnone : Store.empty.hits topPost = [] := Store.hits_eq_of_perm (.refl _) .nil
  obtain ⟨_, _, hplay⟩ := play_opening_crossing
  rw [hplay]
  refine ⟨_, .head _, ?_⟩
  simp only [List.mem_append, List.mem_replicate, List.mem_cons, List.not_mem_nil, or_false]
  rintro u (⟨_, rfl⟩ | rfl | rfl | rfl | rfl | rfl)
  · rw [hnone]; decide
  · rw [twoPosts_hits]; decide
  · rw [twoPosts_hits]; decide
  · rw [threePosts_hits]; decide
  · rw [threePosts_hits]; decide
  · rw [threePosts_hits]; decide

end FeedSearch.Search
