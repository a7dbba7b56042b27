-- Counters that are conserved. In every session the counters and what the searches
-- under way still owe them come to what has happened: one move of one search keeps
-- the balance, so all of them do, and when all searches are over nothing is owed.
import FeedSearch.Proofs.EventCounts
import FeedSearch.Proofs.ProviderLanes
import FeedSearch.Proofs.SearchSessions

namespace FeedSearch.Search

open Fetch

/-! ## What a search owes the counters -/

namespace Standing

/-- A search that has not looked into the cache yet. -/
def unlooked : Standing → Nat
  | .staged (.lookup _) => 1
  | _ => 0

/-- A search that is about to fetch. -/
def unfetched : Standing → Nat
  | .staged (.fetching _) => 1
  | _ => 0

/-- The calls of a provider that have not ended, started or not. -/
def unended (p : String) : Standing → Nat
  | .calling _ uncalled inAir _ => uncalled.count p + inAir.countP (·.provider == p)
  | .staged _ => 0

/-- Whether a call of a provider was rejected by its breaker. -/
def isRejection (p : String) (l : Landing) : Bool :=
  l.provider == p && l.outcome == .failure .breakerOpen

/-- The calls of a provider that were rejected and have not ended. -/
def rejected (p : String) : Standing → Nat
  | .calling _ _ inAir _ => inAir.countP (isRejection p)
  | .staged _ => 0

@[simp] theorem unended_calling (p : String) (r : Request) (uncalled : List String)
    (inAir : List Landing) (merge : Merge) : (calling r uncalled inAir merge).unended p =
      uncalled.count p + inAir.countP (·.provider == p) := rfl

@[simp] theorem rejected_calling (p : String) (r : Request) (uncalled : List String)
    (inAir : List Landing) (merge : Merge) :
    (calling r uncalled inAir merge).rejected p = inAir.countP (isRejection p) := rfl

/-- An answer that was found with the providers. -/
def missed (s : Standing) : Nat := s.isMiss.toNat

theorem isOver_of_isMiss {s : Standing} (h : s.isMiss = true) : s.IsOver := by
  unfold isMiss at h
  split at h
  · exact ⟨_, rfl, nofun⟩
  · cases h

end Standing

/-- An approach to a provider that did not get beyond the breaker. -/
def Approach.isRejection (p : String) (a : Approach) : Bool :=
  a.provider == p && a.rejected && !a.called

/-! ## The balance of one move -/

/-- What a search and the counters exchange when the search makes a move. -/
structure Exchange (c : Coordinator) (s : Standing) (c' : Coordinator) (s' : Standing) (b : Books) :
    Prop where
  names : c'.orchestrator.names = c.orchestrator.names
  outcomesNeat : c.metrics.outcomes.Neat → c'.metrics.outcomes.Neat
  fetchesNeat : c.metrics.fetches.Neat → c'.metrics.fetches.Neat
  lookups : c'.metrics.hits + c'.metrics.misses + s'.unlooked =
    c.metrics.hits + c.metrics.misses + s.unlooked
  fetches : c'.metrics.misses + s.unfetched = c.metrics.misses + b.fetches + s'.unfetched
  outcomes : c.metrics.outcomes.Neat → c.orchestrator.names.Nodup → ∀ p ∈ c.orchestrator.names,
    c'.metrics.outcomes.total (·.1 == p) + s'.unended p =
      c.metrics.outcomes.total (·.1 == p) + s.unended p + b.fetches
  times : c.metrics.fetches.Neat → c.orchestrator.names.Nodup → ∀ p ∈ c.orchestrator.names,
    c'.metrics.fetches.total (· == p) + s'.unended p =
      c.metrics.fetches.total (· == p) + s.unended p + b.fetches
  rejections : c.metrics.outcomes.Neat → ∀ p,
    c'.metrics.outcomes.total (· == (p, "breaker_open")) + s'.rejected p =
      c.metrics.outcomes.total (· == (p, "breaker_open")) + s.rejected p +
        b.approaches.countP (Approach.isRejection p)
  answers : s'.missed + c.metrics.writeErrors = s.missed + b.written + c'.metrics.writeErrors

section Moves

variable {c c' : Coordinator} {s s' : Standing} {b : Books}

/-- A move that does not touch the counters of providers. -/
theorem Exchange.of_untouched (hnames : c'.orchestrator.names = c.orchestrator.names)
    (houtcomes : c'.metrics.outcomes = c.metrics.outcomes)
    (htimes : c'.metrics.fetches = c.metrics.fetches)
    (hlookups : c'.metrics.hits + c'.metrics.misses + s'.unlooked =
      c.metrics.hits + c.metrics.misses + s.unlooked)
    (hfetches : c'.metrics.misses + s.unfetched = c.metrics.misses + b.fetches + s'.unfetched)
    (hunended : c.orchestrator.names.Nodup → ∀ p ∈ c.orchestrator.names,
      s'.unended p = s.unended p + b.fetches)
    (hrejected : ∀ p, s'.rejected p = s.rejected p + b.approaches.countP (Approach.isRejection p))
    (hanswers : s'.missed + c.metrics.writeErrors = s.missed + b.written + c'.metrics.writeErrors) :
    Exchange c s c' s' b where
  names := hnames
  outcomesNeat h := by rwa [houtcomes]
  fetchesNeat h := by rwa [htimes]
  lookups := hlookups
  fetches := hfetches
  outcomes _ hnodup p hp := by
    rw [houtcomes, hunended hnodup p hp, Nat.add_assoc]
  times _ hnodup p hp := by
    rw [htimes, hunended hnodup p hp, Nat.add_assoc]
  rejections _ p := by
    rw [houtcomes, hrejected p, Nat.add_assoc]
  answers := hanswers

/-- A move that changes nothing. -/
theorem Exchange.refl (c : Coordinator) (s : Standing) : Exchange c s c s .empty :=
  .of_untouched rfl rfl rfl rfl rfl (fun _ _ _ => rfl) (fun _ => rfl) (by simp [Books.empty])

/-- A stage that leaves the providers alone. -/
theorem Exchange.of_stages {stage stage' : Stage} {written : Nat}
    (horchestrator : c'.orchestrator = c.orchestrator)
    (houtcomes : c'.metrics.outcomes = c.metrics.outcomes)
    (htimes : c'.metrics.fetches = c.metrics.fetches)
    (hlookups : c'.metrics.hits + c'.metrics.misses + (Standing.staged stage').unlooked =
      c.metrics.hits + c.metrics.misses + (Standing.staged stage).unlooked)
    (hfetches : c'.metrics.misses + (Standing.staged stage).unfetched =
      c.metrics.misses + (Standing.staged stage').unfetched)
    (hanswers : (Standing.staged stage').missed + c.metrics.writeErrors =
      (Standing.staged stage).missed + written + c'.metrics.writeErrors) :
    Exchange c (.staged stage) c' (.staged stage') { Books.empty with written } :=
  .of_untouched (congrArg Orchestrator.names horchestrator) houtcomes htimes hlookups hfetches
    (fun _ _ _ => rfl) (fun _ => rfl) hanswers

/-- A stage looks the answer up or writes it, and the fetch is not a stage of this kind. -/
theorem step_exchange (c : Coordinator) (cancel : Cancel) {stage : Stage}
    (hstage : ∀ r, stage ≠ .fetching r) :
    Exchange c (.staged stage) (c.step cancel stage).2 (.staged (c.step cancel stage).1)
      { Books.empty with written := (c.writes stage).toNat } := by
  cases stage with
  | lookup r =>
    rcases hget : c.cache.get (cacheKey r) c.clock.running with ⟨_ | all, cache⟩
    · simp only [Coordinator.step, Coordinator.stepLookup, hget]
      refine .of_stages rfl rfl rfl ?_ rfl rfl
      show c.metrics.hits + (c.metrics.misses + 1) + 0 = c.metrics.hits + c.metrics.misses + 1
      omega
    · simp only [Coordinator.step, Coordinator.stepLookup, hget]
      refine .of_stages rfl rfl rfl ?_ rfl rfl
      show c.metrics.hits + 1 + c.metrics.misses + 0 = c.metrics.hits + c.metrics.misses + 1
      omega
  | fetching r => exact absurd rfl (hstage r)
  | upserting r batch =>
    rcases hupsert : c.store.upsert batch with ⟨_ | _, store⟩
    · simp only [Coordinator.step, Coordinator.stepUpsert, hupsert]
      exact .of_stages rfl rfl rfl rfl rfl rfl
    · simp only [Coordinator.step, Coordinator.stepUpsert, hupsert]
      exact .of_stages rfl rfl rfl rfl rfl rfl
  | reading r =>
    rcases hsearch : c.store.search r with ⟨_ | ⟨items, total⟩, store⟩
    · simp only [Coordinator.step, Coordinator.stepRead, hsearch]
      exact .of_stages rfl rfl rfl rfl rfl rfl
    · simp only [Coordinator.step, Coordinator.stepRead, hsearch]
      split
      · exact .of_stages rfl rfl rfl rfl rfl rfl
      · exact .of_stages rfl rfl rfl rfl rfl rfl
  | completing r items total =>
    rcases hsearch : c.store.search { r with page := 1, pageSize := total } with
      ⟨_ | ⟨all, _⟩, store⟩
    · simp only [Coordinator.step, Coordinator.stepComplete, hsearch]
      refine .of_stages rfl rfl rfl rfl rfl ?_
      show 1 + c.metrics.writeErrors = 0 + 0 + (c.metrics.writeErrors + 1)
      omega
    · simp only [Coordinator.step, Coordinator.stepComplete, hsearch]
      exact .of_stages rfl rfl rfl rfl rfl rfl
  | caching r items total all =>
    rcases hset : c.cache.set (cacheKey r) all c.cacheTtl c.clock.running with ⟨_ | _ | _, cache⟩
    · simp only [Coordinator.step, Coordinator.stepCache, Coordinator.writes, hset]
      refine .of_stages rfl rfl rfl rfl rfl ?_
      show 1 + c.metrics.writeErrors = 0 + 1 + c.metrics.writeErrors
      omega
    · simp only [Coordinator.step, Coordinator.stepCache, Coordinator.writes, hset]
      refine .of_stages rfl rfl rfl rfl rfl ?_
      show 1 + c.metrics.writeErrors = 0 + 0 + (c.metrics.writeErrors + 1)
      omega
    · simp only [Coordinator.step, Coordinator.stepCache, Coordinator.writes, hset]
      exact .of_stages rfl rfl rfl rfl rfl rfl
  | finished outcome => exact .of_stages rfl rfl rfl rfl rfl rfl

/-- With the start of a fetch, one call of every provider is to end. -/
theorem fetch_exchange (c : Coordinator) (r : Request) :
    Exchange c (.staged (.fetching r)) c (.calling r c.orchestrator.names [] .empty)
      { Books.empty with fetches := 1 } := by
  refine .of_untouched rfl rfl rfl rfl rfl ?_ (fun _ => rfl) rfl
  intro hnodup p hp
  exact List.count_eq_one_of_mem hnodup hp

theorem withMember_names (c : Coordinator) (m : Member) :
    (c.withMember m).orchestrator.names = c.orchestrator.names := by
  unfold Coordinator.withMember Orchestrator.names
  rw [List.map_map]
  apply List.map_congr_left
  intro n _
  rw [Function.comp_apply]
  split
  · rename_i hname
    exact (eq_of_beq hname).symm
  · rfl

/-- A call that starts counts nothing but the payload that has been read for it. -/
theorem start_counts (deadline : Time.Span) (q : Fetch.Query) (m : Member) (f : Field) :
    ∃ parses, (start deadline q m f).2.2.metrics = { f.metrics with parses } := by
  unfold start
  dsimp only
  split
  · exact ⟨f.metrics.parses, rfl⟩
  · split
    · exact ⟨f.metrics.parses, rfl⟩
    · dsimp only
      split
      · exact ⟨_, rfl⟩
      · exact ⟨f.metrics.parses, rfl⟩

/-- A provider was not approached beyond its breaker exactly if its call ends as a rejected one. -/
theorem isRejection_eq {deadline : Time.Span} {q : Fetch.Query} {admitted : Bool} {m m' : Member}
    {l : Landing} (h : Served deadline q admitted m l m') (p : String) :
    Approach.isRejection p ⟨m.adapter.name, !admitted, m'.calls.length != m.calls.length⟩ =
      Standing.isRejection p l := by
  unfold Approach.isRejection Standing.isRejection
  cases h with
  | rejected h => simp [h]
  | givenUp h _ => simp [h]
  | called h _ wall =>
    have hmade := guardCall_ne_breakerOpen deadline q.cancel (m.adapter.reply (m.nextCall q wall))
    simp [h, hmade]

/-- A call that starts was still to end, and is in the air now. -/
theorem call_exchange (c : Coordinator) (cancel : Cancel) (r : Request) {name : String}
    {uncalled : List String} {inAir : List Landing} {merge : Merge} {m : Member}
    (hm : c.member? name = some m) :
    Exchange c (.calling r (name :: uncalled) inAir merge)
      ((c.withMember (c.call cancel r m).2.1).withField (c.call cancel r m).2.2)
      (.calling r uncalled (inAir ++ [(c.call cancel r m).1]) merge)
      { Books.empty with approaches := [c.approach cancel r m] } := by
  have hname : m.adapter.name = name := eq_of_beq (List.find?_some hm :)
  have hserved := start_served c.orchestrator.deadline (Coordinator.query r cancel) m c.field
  obtain ⟨parses, hcounts⟩ :=
    start_counts c.orchestrator.deadline (Coordinator.query r cancel) m c.field
  have hmetrics : ((c.withMember (c.call cancel r m).2.1).withField
      (c.call cancel r m).2.2).metrics = { c.metrics with parses } := hcounts
  refine .of_untouched ?_ (by rw [hmetrics]) (by rw [hmetrics]) (by rw [hmetrics]; rfl)
    (by rw [hmetrics]; rfl) ?_ ?_ (by rw [hmetrics]; rfl)
  · exact withMember_names c _
  · intro _ p _
    have hprovider : (c.call cancel r m).1.provider = name := hserved.provider.trans hname
    rw [Standing.unended_calling, Standing.unended_calling, List.count_cons, List.countP_append,
      List.countP_singleton, hprovider]
    show _ = _ + 0
    omega
  · intro p
    have hrejection : Approach.isRejection p (c.approach cancel r m) =
        Standing.isRejection p (c.call cancel r m).1 := isRejection_eq hserved p
    rw [Standing.rejected_calling, Standing.rejected_calling, List.countP_append,
      List.countP_singleton, List.countP_singleton, hrejection]

/-- A fetch is over when all its calls have ended. -/
theorem result_exchange (c : Coordinator) (r : Request) (merge : Merge) (result : Result) :
    Exchange c (.calling r [] [] merge) (c.afterFetch r result).2
      (.staged (c.afterFetch r result).1) .empty := by
  obtain ⟨clock, _, hc, hstage⟩ := c.afterFetch_cases r result
  rw [hc]
  have hquiet : (Standing.staged (c.afterFetch r result).1).unlooked = 0 ∧
      (Standing.staged (c.afterFetch r result).1).unfetched = 0 ∧
      (Standing.staged (c.afterFetch r result).1).missed = 0 := by
    rcases hstage with h | ⟨_, h⟩ | h | ⟨_, h⟩
    · rw [h]; exact ⟨rfl, rfl, rfl⟩
    · rw [h]; exact ⟨rfl, rfl, rfl⟩
    · rw [h]; exact ⟨rfl, rfl, rfl⟩
    · rw [h]; exact ⟨rfl, rfl, rfl⟩
  obtain ⟨hlookups, hfetches, hmissed⟩ := hquiet
  refine .of_untouched rfl rfl rfl ?_ ?_ (fun _ _ _ => rfl) (fun _ => rfl) ?_
  · rw [hlookups]; rfl
  · rw [hfetches]; rfl
  · rw [hmissed]; rfl

theorem outcomeLabel_breakerOpen (o : Fetch.Outcome) :
    outcomeLabel o = "breaker_open" ↔ o = .failure .breakerOpen := by
  rcases o with records | cause | _
  · simp [outcomeLabel]
  · cases cause <;> simp [outcomeLabel, FailureCause.label]
  · simp [outcomeLabel]

/-- The end of a call is counted under its provider and its outcome. -/
theorem land_metrics (f : Field) {l : Landing} (now : Instant) (hl : l.outcome.isCrash = false) :
    ∃ gauges, (land f l now).metrics = { f.metrics with
      outcomes := f.metrics.outcomes.add (l.provider, outcomeLabel l.outcome)
      fetches := f.metrics.fetches.add l.provider
      gauges } := by
  unfold land
  cases houtcome : l.outcome with
  | records records => exact ⟨_, rfl⟩
  | failure cause => exact ⟨_, rfl⟩
  | crash =>
    rw [houtcome] at hl
    cases hl

/-- A call in the air ends, and is counted. -/
theorem land_exchange (c : Coordinator) {r : Request} {uncalled : List String}
    {inAir : List Landing} {merge : Merge} {place : Nat} {l : Landing}
    (hl : inAir[place]? = some l) (hcalm : l.outcome.isCrash = false) :
    Exchange c (.calling r uncalled inAir merge) (c.landNow l)
      (.calling r uncalled (inAir.eraseIdx place) (merge.add l)) .empty := by
  obtain ⟨gauges, hcounts⟩ := land_metrics c.field c.clock.running hcalm
  have hmetrics : (c.landNow l).metrics = { c.metrics with
      outcomes := c.metrics.outcomes.add (l.provider, outcomeLabel l.outcome)
      fetches := c.metrics.fetches.add l.provider
      gauges } := hcounts
  have hinAir (p : Landing → Bool) :
      inAir.countP p = (inAir.eraseIdx place).countP p + if p l then 1 else 0 := by
    obtain ⟨hlt, rfl⟩ := List.getElem?_eq_some_iff.mp hl
    rw [← (List.getElem_cons_eraseIdx_perm hlt).countP_eq, List.countP_cons]
  constructor
  · rfl
  · intro h
    rw [hmetrics]
    exact h.add _
  · intro h
    rw [hmetrics]
    exact h.add _
  · rw [hmetrics]
    rfl
  · rw [hmetrics]
    rfl
  · intro h _ p _
    rw [hmetrics]
    dsimp only
    rw [Counts.total_add h, Standing.unended_calling, Standing.unended_calling, hinAir]
    show _ + (if l.provider == p then 1 else 0) + _ = _ + 0
    omega
  · intro h _ p _
    rw [hmetrics]
    dsimp only
    rw [Counts.total_add h, Standing.unended_calling, Standing.unended_calling, hinAir]
    show _ = _ + 0
    omega
  · intro h p
    have hkey : ((l.provider, outcomeLabel l.outcome) == (p, "breaker_open")) =
        Standing.isRejection p l := by
      rw [Bool.eq_iff_iff]
      unfold Standing.isRejection
      rw [beq_iff_eq, Prod.mk.injEq, Bool.and_eq_true, beq_iff_eq, beq_iff_eq,
        outcomeLabel_breakerOpen]
    rw [hmetrics]
    dsimp only
    rw [Counts.total_add h, hkey, Standing.rejected_calling, Standing.rejected_calling, hinAir]
    show _ = _ + 0
    omega
  · rw [hmetrics]
    rfl

/-- Whatever move a search makes, it crashes or keeps the balance. -/
theorem move_exchange (c : Coordinator) (cancel : Cancel) (s : Standing) (move : Move) :
    (c.move cancel s move).1 = .staged (.finished .crashed) ∨
      Exchange c s (c.move cancel s move).2.1 (c.move cancel s move).1
        (c.move cancel s move).2.2 := by
  cases move with
  | go =>
    right
    rcases s with stage | ⟨r, uncalled, inAir, merge⟩
    · by_cases hfetch : ∃ r, stage = .fetching r
      · obtain ⟨r, rfl⟩ := hfetch
        exact fetch_exchange c r
      · have hstage : ∀ r, stage ≠ .fetching r := fun r hr => hfetch ⟨r, hr⟩
        have hstep := step_exchange c cancel hstage
        cases stage with
        | fetching r => exact absurd rfl (hstage r)
        | _ => exact hstep
    · rcases uncalled with _ | ⟨name, uncalled⟩
      · rcases inAir with _ | ⟨l, inAir⟩
        · exact result_exchange c r merge merge.result
        · exact .refl c _
      · cases hm : c.member? name with
        | none =>
          simp only [Coordinator.move, Coordinator.go, hm]
          exact .refl c _
        | some m =>
          simp only [Coordinator.move, Coordinator.go, hm]
          exact call_exchange c cancel r hm
  | land place =>
    rcases s with stage | ⟨r, uncalled, inAir, merge⟩
    · exact Or.inr (.refl c _)
    · cases hl : inAir[place]? with
      | none =>
        right
        simp only [Coordinator.move, Coordinator.endOne, hl]
        exact .refl c _
      | some l =>
        simp only [Coordinator.move, Coordinator.endOne, hl]
        by_cases hcrash : l.outcome.isCrash = true
        · rw [if_pos hcrash]
          exact Or.inl rfl
        · rw [if_neg hcrash]
          exact Or.inr (land_exchange c hl (Bool.eq_false_iff.mpr hcrash))

end Moves

/-! ## The balance of a session -/

namespace Session

/-- What all searches of a session owe together. -/
def owed (w : Session) (owes : Standing → Nat) : Nat := (w.pursuits.map (owes ·.standing)).sum

/-- The counters of a session, with what its searches still owe them, come to what has happened. -/
structure Balanced (names : List String) (w : Session) : Prop where
  members : w.shared.orchestrator.names = names
  outcomesNeat : w.shared.metrics.outcomes.Neat
  fetchesNeat : w.shared.metrics.fetches.Neat
  lookups : w.shared.metrics.hits + w.shared.metrics.misses + w.owed Standing.unlooked =
    w.pursuits.length
  fetches : w.shared.metrics.misses = w.books.fetches + w.owed Standing.unfetched
  outcomes : ∀ p ∈ names,
    w.shared.metrics.outcomes.total (·.1 == p) + w.owed (Standing.unended p) = w.books.fetches
  times : ∀ p ∈ names,
    w.shared.metrics.fetches.total (· == p) + w.owed (Standing.unended p) = w.books.fetches
  rejections : ∀ p,
    w.shared.metrics.outcomes.total (· == (p, "breaker_open")) + w.owed (Standing.rejected p) =
      w.books.approaches.countP (Approach.isRejection p)
  answers : w.owed Standing.missed = w.books.written + w.shared.metrics.writeErrors

/-- A search of the session has crashed. -/
def HasCrashed (w : Session) : Prop := ∃ s ∈ w.pursuits, s.standing = .staged (.finished .crashed)

/-- What is owed changes with the search that makes a move. -/
theorem owed_set {w : Session} {number : Nat} {s : Pursuit} (hs : w.pursuits[number]? = some s)
    (s' : Pursuit) (shared : Coordinator) (books : Books) (owes : Standing → Nat) :
    owed ⟨shared, w.pursuits.set number s', books⟩ owes + owes s.standing =
      w.owed owes + owes s'.standing := by
  obtain ⟨hlt, rfl⟩ := List.getElem?_eq_some_iff.mp hs
  have hsplit : w.pursuits = w.pursuits.take number ++ w.pursuits[number] ::
      w.pursuits.drop (number + 1) := by simp
  unfold owed
  rw [List.set_eq_take_append_cons_drop, if_pos hlt]
  conv_rhs => rw [hsplit]
  simp only [List.map_append, List.map_cons, List.sum_append, List.sum_cons]
  omega

variable {names : List String} {w : Session}

/-- A search that starts owes its look into the cache. -/
theorem Balanced.start (h : w.Balanced names) (r : Request) (cancel : Cancel) :
    (w.act (.start r cancel)).Balanced names := by
  have howed (owes : Standing → Nat) : (w.act (.start r cancel)).owed owes =
      w.owed owes + owes (.staged (.lookup (normalize w.shared.limits r))) := by
    simp [owed, act]
  constructor
  · exact h.members
  · exact h.outcomesNeat
  · exact h.fetchesNeat
  · have hlength : (w.act (.start r cancel)).pursuits.length = w.pursuits.length + 1 := by
      simp [act]
    rw [howed, hlength, ← h.lookups]
    rfl
  · rw [howed]
    exact h.fetches
  · intro p hp
    rw [howed]
    exact h.outcomes p hp
  · intro p hp
    rw [howed]
    exact h.times p hp
  · intro p
    rw [howed]
    exact h.rejections p
  · rw [howed]
    exact h.answers

/-- What changes around the searches is counted nowhere. -/
theorem Balanced.change (h : w.Balanced names) (store : StoreLink) (cache : CacheLink)
    (clock : Clock) (breakers : Breakers) (reply : String → Call → Reply) :
    (w.act (.change store cache clock breakers reply)).Balanced names := by
  refine ⟨?_, h.outcomesNeat, h.fetchesNeat, h.lookups, h.fetches, h.outcomes, h.times,
    h.rejections, h.answers⟩
  rw [← h.members]
  unfold Orchestrator.names
  exact List.map_map

/-- One move of one search keeps the balance, or the search crashes. -/
theorem Balanced.move (hnodup : names.Nodup) (h : w.Balanced names) (number : Nat) (m : Move) :
    (w.act (.move number m)).HasCrashed ∨ (w.act (.move number m)).Balanced names := by
  cases hs : w.pursuits[number]? with
  | none =>
    simp only [act, hs]
    exact Or.inr h
  | some s =>
    have hmoved := move_exchange w.shared s.cancel s.standing m
    rw [act_move hs]
    generalize w.shared.move s.cancel s.standing m = moved at hmoved ⊢
    obtain ⟨standing, shared, books⟩ := moved
    rcases hmoved with hcrash | hmoved
    · refine Or.inl ⟨{ s with standing }, ?_, hcrash⟩
      obtain ⟨hlt, -⟩ := List.getElem?_eq_some_iff.mp hs
      exact List.mem_set hlt _
    · right
      have howed := owed_set hs { s with standing } shared (w.books.append books)
      have hown (p : String) (hp : p ∈ names) : p ∈ w.shared.orchestrator.names := by
        rwa [h.members]
      have hnodup' : w.shared.orchestrator.names.Nodup := by rwa [h.members]
      dsimp only at hmoved howed
      constructor
      · exact hmoved.names.trans h.members
      · exact hmoved.outcomesNeat h.outcomesNeat
      · exact hmoved.fetchesNeat h.fetchesNeat
      · have hset := howed Standing.unlooked
        have hnow := hmoved.lookups
        have hbefore := h.lookups
        dsimp only
        rw [List.length_set]
        omega
      · have hset := howed Standing.unfetched
        have hnow := hmoved.fetches
        have hbefore := h.fetches
        dsimp only
        rw [Books.append_fetches]
        omega
      · intro p hp
        have hset := howed (Standing.unended p)
        have hnow := hmoved.outcomes h.outcomesNeat hnodup' p (hown p hp)
        have hbefore := h.outcomes p hp
        dsimp only
        rw [Books.append_fetches]
        omega
      · intro p hp
        have hset := howed (Standing.unended p)
        have hnow := hmoved.times h.fetchesNeat hnodup' p (hown p hp)
        have hbefore := h.times p hp
        dsimp only
        rw [Books.append_fetches]
        omega
      · intro p
        have hset := howed (Standing.rejected p)
        have hnow := hmoved.rejections h.outcomesNeat p
        have hbefore := h.rejections p
        dsimp only
        rw [Books.append_approaches, List.countP_append]
        omega
      · have hset := howed Standing.missed
        have hnow := hmoved.answers
        have hbefore := h.answers
        dsimp only
        rw [Books.append_written]
        omega

/-- A search that has crashed stays so. -/
theorem HasCrashed.act (h : w.HasCrashed) (a : Act) : (w.act a).HasCrashed := by
  obtain ⟨s, hs, hcrash⟩ := h
  cases a with
  | start r cancel => exact ⟨s, List.mem_append_left _ hs, hcrash⟩
  | change store cache clock breakers reply => exact ⟨s, hs, hcrash⟩
  | move number m =>
    cases hn : w.pursuits[number]? with
    | none =>
      simp only [Session.act, hn]
      exact ⟨s, hs, hcrash⟩
    | some s' =>
      rw [act_move hn]
      obtain ⟨i, hi, rfl⟩ := List.getElem_of_mem hs
      by_cases hown : i = number
      · subst hown
        obtain ⟨hlt, rfl⟩ := List.getElem?_eq_some_iff.mp hn
        refine ⟨_, List.mem_set hlt _, ?_⟩
        rw [hcrash]
        cases m <;> rfl
      · refine ⟨w.pursuits[i], ?_, hcrash⟩
        have hkept : ∀ s, (w.pursuits.set number s)[i]? = some w.pursuits[i] := fun s => by
          rw [List.getElem?_set_ne (Ne.symm hown), List.getElem?_eq_getElem hi]
        exact List.mem_of_getElem? (hkept _)

theorem Balanced.act (hnodup : names.Nodup) (h : w.Balanced names) (a : Act) :
    (w.act a).HasCrashed ∨ (w.act a).Balanced names := by
  cases a with
  | start r cancel => exact Or.inr (h.start r cancel)
  | move number m => exact h.move hnodup number m
  | change store cache clock breakers reply =>
    exact Or.inr (h.change store cache clock breakers reply)

/-- Whatever happens in a session, a search has crashed or the balance is kept. -/
theorem Balanced.play (hnodup : names.Nodup) (h : w.HasCrashed ∨ w.Balanced names)
    (acts : List Act) : (w.play acts).HasCrashed ∨ (w.play acts).Balanced names := by
  induction acts generalizing w with
  | nil => exact h
  | cons a acts ih =>
    apply ih
    rcases h with h | h
    · exact Or.inl (h.act a)
    · exact h.act hnodup a

/-- Before the first search nothing is counted and nothing is owed. -/
theorem balanced_of (c : Coordinator) (hempty : c.metrics = .empty) :
    (Session.of c).Balanced c.orchestrator.names := by
  have hmetrics : (Session.of c).shared.metrics = .empty := hempty
  refine ⟨rfl, ?_, ?_, ?_, ?_, ?_, ?_, ?_, ?_⟩
  · rw [hmetrics]
    exact List.nodup_nil
  · rw [hmetrics]
    exact List.nodup_nil
  · rw [hmetrics]
    rfl
  · rw [hmetrics]
    rfl
  · intro p _
    rw [hmetrics]
    rfl
  · intro p _
    rw [hmetrics]
    rfl
  · intro p
    rw [hmetrics]
    rfl
  · rw [hmetrics]
    rfl

/-! ## The law -/

/-- Once all searches are over, nothing is owed. -/
theorem owed_of_isOver (hover : ∀ s ∈ w.pursuits, s.standing.IsOver) {owes : Standing → Nat}
    (howes : ∀ outcome, owes (.staged (.finished outcome)) = 0) : w.owed owes = 0 := by
  unfold owed
  apply List.sum_eq_zero
  intro n hn
  obtain ⟨s, hs, rfl⟩ := List.mem_map.mp hn
  obtain ⟨outcome, hfinished, _⟩ := hover s hs
  rw [hfinished]
  exact howes outcome

theorem owed_missed (w : Session) :
    w.owed Standing.missed = w.pursuits.countP (·.standing.isMiss) := by
  unfold owed
  induction w.pursuits with
  | nil => rfl
  | cons s pursuits ih =>
    rw [List.map_cons, List.sum_cons, ih, List.countP_cons, Nat.add_comm]
    unfold Standing.missed
    cases s.standing.isMiss <;> rfl

/-- In a session in which all searches are over and none has crashed, every event is counted once.
Hits and misses are the searches, and misses the fetches. Every provider has as many outcomes as
there were fetches, and as many times; its breaker was open as often as the provider was left alone
for this reason. Responses from the providers are entries written, or counted as failed writes. -/
theorem every_event_is_counted_once (c : Coordinator) (bs : Breakers) (deadline : Time.Span)
    (adapters : List Adapter) (acts : List Act) (hempty : c.metrics = .empty)
    (hregistered : c.orchestrator = (Orchestrator.new bs deadline).registerAll adapters)
    (hover : ∀ s ∈ ((Session.of c).play acts).pursuits, s.standing.IsOver) :
    let w := (Session.of c).play acts
    let counts := w.shared.metrics
    counts.hits + counts.misses = w.pursuits.length ∧
      counts.misses = w.books.fetches ∧
      (∀ p ∈ c.orchestrator.names,
        ((counts.outcomes.filter (·.1.1 == p)).map (·.2)).sum = counts.misses ∧
          counts.fetches.get p = counts.misses ∧
          counts.outcomes.get (p, "breaker_open") = w.books.approaches.countP fun a =>
            a.provider == p && a.rejected && !a.called) ∧
      w.pursuits.countP (·.standing.isMiss) = w.books.written + counts.writeErrors := by
  intro w counts
  have hnodup : c.orchestrator.names.Nodup := by
    rw [hregistered]
    exact registerAll_names_nodup bs deadline adapters
  have hbalanced : w.Balanced c.orchestrator.names := by
    rcases Balanced.play hnodup (Or.inr (balanced_of c hempty)) acts with ⟨s, hs, hcrash⟩ | h
    · obtain ⟨outcome, hfinished, hne⟩ := hover s hs
      rw [hcrash] at hfinished
      cases hfinished
      exact absurd rfl hne
    · exact h
  have hfetches : counts.misses = w.books.fetches := by
    have hbooks := hbalanced.fetches
    rwa [owed_of_isOver hover fun _ => rfl] at hbooks
  refine ⟨?_, hfetches, ?_, ?_⟩
  · have hlookups := hbalanced.lookups
    rwa [owed_of_isOver hover fun _ => rfl] at hlookups
  · intro p hp
    refine ⟨?_, ?_, ?_⟩
    · have houtcomes := hbalanced.outcomes p hp
      rw [owed_of_isOver hover fun _ => rfl] at houtcomes
      exact houtcomes.trans hfetches.symm
    · have htimes := hbalanced.times p hp
      rw [owed_of_isOver hover fun _ => rfl, ← Counts.get_eq_total hbalanced.fetchesNeat] at htimes
      exact htimes.trans hfetches.symm
    · have hrejections := hbalanced.rejections p
      rwa [owed_of_isOver hover fun _ => rfl,
        ← Counts.get_eq_total hbalanced.outcomesNeat] at hrejections
  · rw [← owed_missed]
    exact hbalanced.answers

/-! ## Two searches, one of them without a cache -/

def article : Record := .unseen "a" "1" ""

def halfOpenBreakers : Breakers :=
  ⟨.standard, [("b", { Breaker.fresh with state := .opened, lastFailure := some 0 })]⟩

def halfOpenAdapters : List Adapter :=
  [.scripted "a" [⟨5, .records [article]⟩] false 0, .scripted "b" [⟨5, .fail []⟩] false 0]

/-- Of the two providers the second is not asked: its breaker is open. -/
def halfOpen : Coordinator :=
  { Coordinator.new ((Orchestrator.new halfOpenBreakers .longest).registerAll halfOpenAdapters)
      ⟨0, ⟨0, 0⟩⟩ with
    scorer := constantScorer .zero }

/-- The moves of a search that nobody interrupts. The call that was rejected ends first. -/
def alone (number : Nat) : List Act :=
  .start (.ofQuery "rust") .never ::
    [Move.go, .go, .go, .go, .land 1, .land 0, .go, .go, .go, .go].map (.move number)

/-- The cache goes out of order between the two searches. -/
def twoSearches : List Act :=
  alone 0 ++ .change (.reliable .empty) .broken ⟨0, ⟨0, 0⟩⟩ halfOpenBreakers
    (fun _ _ => ⟨some 5, .records [article], false⟩) :: alone 1

/-- One response is written to the cache and one is not, and each is counted. -/
theorem two_searches_are_counted_once :
    let w := (Session.of halfOpen).play twoSearches
    (∀ s ∈ w.pursuits, s.standing.IsOver) ∧ w.shared.metrics.misses = w.books.fetches ∧
      w.shared.metrics.outcomes.get ("b", "breaker_open") = 2 ∧
      w.books.written + w.shared.metrics.writeErrors = 2 := by
  intro w
  have hmiss : w.pursuits.all (·.standing.isMiss) = true := by decide +kernel
  have hover : ∀ s ∈ w.pursuits, s.standing.IsOver := fun s hs =>
    Standing.isOver_of_isMiss (List.all_eq_true.mp hmiss s hs)
  obtain ⟨-, hfetches, hproviders, hmisses⟩ := every_event_is_counted_once halfOpen halfOpenBreakers
    .longest halfOpenAdapters twoSearches rfl rfl hover
  obtain ⟨-, -, hopen⟩ := hproviders "b" (by decide +kernel)
  refine ⟨hover, hfetches, ?_, ?_⟩
  · exact hopen.trans (by decide +kernel)
  · exact hmisses.symm.trans (by decide +kernel)

end Session

end FeedSearch.Search
