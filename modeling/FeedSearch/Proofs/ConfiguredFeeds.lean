-- What configured feeds bring is always fit for the store. No name of accepted
-- settings is blank, every id is written behind the name and an underscore, and
-- every score is a finite number, so that no batch is refused for a record of it.
import FeedSearch.Proofs.CacheLifetimes
import FeedSearch.Proofs.FloatMagnitudes
import FeedSearch.Proofs.OrdersOfEnds

namespace FeedSearch

/-! ## Scores -/

namespace Search

open Number

variable (r : Record) (now : Time.Moment)

theorem ofCount_upTo (n : UInt64) : UpTo 65 (floats.ofCount n) := upTo_ofCount n

/-- A count divided by a count that is not zero. -/
theorem ratio_upTo (n : UInt64) {d : UInt64} (hd : d ≠ 0) :
    UpTo 66 (floats.div (floats.ofCount n) (floats.ofCount d)) := by
  apply UpTo.div (upTo_ofCount n) (upTo_ofCount d) (fromOne_ofCount hd)
  · decide
  · decide

theorem popularity_upTo : UpTo 135 (floats.popularity r) := by
  unfold Arithmetic.popularity Arithmetic.videoBoost
  split
  · have hviews := ratio_upTo r.views (by decide : (1000 : UInt64) ≠ 0)
    have hlikes := ratio_upTo r.likes (by decide : (100 : UInt64) ≠ 0)
    have hboost := ratio_upTo 3 (by decide : (2 : UInt64) ≠ 0)
    exact (hviews.add hlikes (by decide)).mul hboost (by decide)
  · have htime := (ofCount_upTo r.readingTime).mono (by decide : 65 ≤ 66)
    have hreactions := ratio_upTo r.reactions (by decide : (50 : UInt64) ≠ 0)
    exact (htime.add hreactions (by decide)).mono (by decide)

/-- No count is divided by zero. -/
theorem quality_upTo : UpTo 132 (floats.quality r) := by
  unfold Arithmetic.quality
  split
  · split
    · exact (ofCount_upTo 0).mono (by decide)
    · rename_i hviews
      have hratio := ratio_upTo r.likes (by simpa using hviews)
      exact hratio.mul (ofCount_upTo 10) (by decide)
  · split
    · exact (ofCount_upTo 0).mono (by decide)
    · rename_i htime
      have hratio := ratio_upTo r.reactions (by simpa using htime)
      exact hratio.mul (ofCount_upTo 5) (by decide)

/-- Whatever a record counts and whenever it was made, its score is a finite number. -/
theorem relevanceScorer_isFinite : (relevanceScorer r now).isFinite = true := by
  have hrecency : UpTo 135 (floats.recency r now) := (ofCount_upTo _).mono (by decide)
  have hsum := (popularity_upTo r).add hrecency (by decide)
  have hquality := (quality_upTo r).mono (by decide : 132 ≤ 137)
  exact (hsum.add hquality (by decide)).isFinite (by decide)

end Search

/-! ## Names -/

namespace Config.Settings

/-- The name of every provider holds more than blanks. -/
def Named (s : Settings) : Prop := ∀ p ∈ s.providers, Text.isBlankText p.name = false

theorem Accepted.named {s : Settings} (h : s.Accepted) : s.Named := by
  obtain ⟨raw, hraw, rfl⟩ := h.exists_checked
  exact hraw.sane.names

end Config.Settings

/-! ## Records -/

/-- A record that says where it comes from: its provider and its name there are not blank. -/
def Record.Addressed (r : Record) : Prop :=
  Text.isBlankText r.provider = false ∧ Text.isBlankText r.providerId = false

/-- A record with its relevance at a moment. -/
def Record.scoredAt (now : Time.Moment) (r : Record) : Record :=
  { r with score := Search.relevanceScorer r now }

theorem Record.Addressed.fault? {r : Record} (h : r.Addressed) (now : Time.Moment) :
    Store.fault? (r.scoredAt now) = none := by
  obtain ⟨hprovider, hid⟩ := h
  have hscore : (r.scoredAt now).score.isFinite = true := Search.relevanceScorer_isFinite r now
  have hprovider' : Text.isBlankText (r.scoredAt now).provider = false := hprovider
  have hid' : Text.isBlankText (r.scoredAt now).providerId = false := hid
  simp [Store.fault?, hprovider', hid', hscore]

namespace Feed

/-- An underscore is no blank, so no id is blank, whatever stands behind it. -/
theorem record_addressed {name : String} (hname : Text.isBlankText name = false)
    (fetchedAt : Time.Moment) (item : Item) : (item.record name fetchedAt).Addressed := by
  refine ⟨hname, ?_⟩
  have hunderscore : Text.isBlank '_' = false := by decide
  simp [Item.record, Text.isBlankText, String.toList_append, hunderscore]

theorem records_addressed {format : Format} {name body : String} {kind : Option Kind}
    {fetchedAt : Time.Moment} {all : List Record} (hname : Text.isBlankText name = false)
    (h : Feed.records format name body kind fetchedAt = .ok all) : ∀ r ∈ all, r.Addressed := by
  obtain ⟨read, _, rfl⟩ := exists_items h
  intro r hr
  obtain ⟨item, _, rfl⟩ := List.mem_map.mp hr
  exact record_addressed hname fetchedAt item

end Feed

/-- The store takes whatever says where it comes from. -/
theorem Store.upsert_scored {fetched : List Record} (h : ∀ r ∈ fetched, r.Addressed)
    (store : Store) (now : Time.Moment) :
    ∃ answer, store.upsert (fetched.map (Record.scoredAt now)) = .ok answer := by
  rw [Store.upsert_ok]
  intro scored hscored
  obtain ⟨r, hr, rfl⟩ := List.mem_map.mp hscored
  exact (h r hr).fault? now

/-! ## Fetches -/

namespace Config.Settings

open Fetch

/-- Every member stands for a provider of the settings, in whatever surroundings, and no name comes
twice. -/
structure Serves (s : Settings) (o : Orchestrator) : Prop where
  names : o.names.Nodup
  adapters : ∀ m ∈ o.members, ∃ p ∈ s.providers, ∃ outside,
    m.adapter = p.provider.adapter outside

variable {s : Settings} {o : Orchestrator} {p : ProviderSettings}

theorem Serves.register (h : s.Serves o) (hp : p ∈ s.providers) (outside : Feed.Surroundings) :
    s.Serves (o.register (p.provider.adapter outside)) := by
  constructor
  · have hnames : (o.register (p.provider.adapter outside)).names =
        o.names.filter (· != p.name) ++ [p.name] := by
      simp only [Orchestrator.names, Orchestrator.register, List.map_append, List.filter_map]
      rfl
    rw [hnames, List.nodup_append]
    refine ⟨h.names.filter _, by simp, ?_⟩
    intro kept hkept new hnew he
    rw [List.mem_singleton.mp hnew] at he
    simp [he] at hkept
  · intro m hm
    rcases List.mem_append.mp hm with hm | hm
    · exact h.adapters m (List.mem_filter.mp hm).1
    · obtain rfl := List.mem_singleton.mp hm
      exact ⟨p, hp, outside, rfl⟩

theorem serves_orchestrator (s : Settings) (outside : Feed.Surroundings) :
    s.Serves (s.orchestrator outside) := by
  have hempty : s.Serves (.new (.empty s.breakerConfig) s.fetchTimeout) :=
    ⟨List.nodup_nil, nofun⟩
  apply List.foldlRecOn s.providers _ hempty
  intro o ho p hp
  exact ho.register hp outside

/-- A fetch leaves every member its adapter. -/
theorem Serves.fetchAll (h : s.Serves o) (q : Query) (clock : Clock) (metrics : Metrics) :
    s.Serves (o.fetchAll q clock metrics).orchestrator := by
  have hadapters := (o.fetchAll_started q clock metrics h.names).adapters
  constructor
  · have hnames := congrArg (List.map (·.name)) hadapters
    rw [List.map_map, List.map_map] at hnames
    unfold Orchestrator.names
    exact hnames.symm ▸ h.names
  · intro m hm
    have hmem : m.adapter ∈ o.members.map (·.adapter) := hadapters ▸ List.mem_map_of_mem hm
    obtain ⟨m', hm', he⟩ := List.mem_map.mp hmem
    rw [← he]
    exact h.adapters m' hm'

/-- Another adapter comes in the place of one of its name. -/
theorem Serves.exchange (h : s.Serves o) (hp : p ∈ s.providers) (outside : Feed.Surroundings) :
    s.Serves (o.exchange (p.provider.adapter outside)) := by
  constructor
  · have hnames : (o.exchange (p.provider.adapter outside)).names = o.names := by
      simp only [Orchestrator.names, Orchestrator.exchange, List.map_map]
      apply List.map_congr_left
      intro m _
      by_cases hm : m.adapter.name = (p.provider.adapter outside).name
      · simp [hm]
      · simp [hm]
    rw [hnames]
    exact h.names
  · intro m' hm'
    obtain ⟨m, hm, rfl⟩ := List.mem_map.mp hm'
    split
    · exact ⟨p, hp, outside, rfl⟩
    · exact h.adapters m hm

theorem Serves.addressed (h : s.Serves o) (hs : s.Named) {q : Query} {clock : Clock}
    {metrics : Metrics} {fetched : List Record}
    (hf : (o.fetchAll q clock metrics).result = .records fetched) : ∀ r ∈ fetched, r.Addressed := by
  intro r hr
  obtain ⟨m, hm, call, all, hanswer, hr⟩ := Orchestrator.exists_answer_of_mem h.names hf hr
  obtain ⟨p, hp, outside, hadapter⟩ := h.adapters m hm
  rw [hadapter] at hanswer
  obtain ⟨body, fetchedAt, hbody⟩ := Feed.Provider.adapter_records hanswer
  exact Feed.records_addressed (hs p hp) hbody r hr

end Config.Settings

/-! ## What a search fails for -/

namespace Search

open Fetch

namespace StoreLink

variable {l : StoreLink} {e : StoreError}

theorem call_error {op : StoreOperation} (h : (l.call op).1 = .error e) :
    ∃ reason, e = .unavailable reason := by
  unfold call at h
  simp only at h
  split at h
  · exact ⟨_, (Except.error.inj h).symm⟩
  · cases h

theorem search_error {r : Request} (h : (l.search r).1 = .error e) :
    ∃ reason, e = .unavailable reason := by
  unfold search at h
  split at h
  · rename_i e' l' hcall
    obtain rfl := Except.error.inj h
    exact call_error (congrArg Prod.fst hcall)
  · cases h

/-- A batch without faults is refused by a store out of reach alone. -/
theorem upsert_error {batch : List Record} (hfit : ∀ r ∈ batch, Store.fault? r = none)
    (h : (l.upsert batch).1 = .error e) : ∃ reason, e = .unavailable reason := by
  unfold upsert at h
  split at h
  · rename_i e' l' hcall
    obtain rfl := Except.error.inj h
    exact call_error (congrArg Prod.fst hcall)
  · rename_i l' _
    obtain ⟨answer, hanswer⟩ := (l'.store.upsert_ok batch).mpr hfit
    simp only [hanswer] at h
    cases h

end StoreLink

/-- No record that is about to be written has a fault, and the search has not failed for one. -/
def Stage.Fit : Stage → Prop
  | .upserting _ batch => ∀ r ∈ batch, Store.fault? r = none
  | .finished (.failed (.storage _ (.invalidRecord _ _))) => False
  | _ => True

theorem Stage.fit_unavailable (operation : String) {e : StoreError}
    (h : ∃ reason, e = .unavailable reason) :
    (Stage.finished (.failed (.storage operation e))).Fit := by
  obtain ⟨reason, rfl⟩ := h
  trivial

namespace Coordinator

/-- A stage leaves the scorer, and the orchestrator as it is or as a fetch leaves it. -/
theorem step_orchestrator (c : Coordinator) (cancel : Cancel) (stage : Stage) :
    (c.step cancel stage).2.scorer = c.scorer ∧
      ((c.step cancel stage).2.orchestrator = c.orchestrator ∨ ∃ q clock metrics,
        (c.step cancel stage).2.orchestrator =
          (c.orchestrator.fetchAll q clock metrics).orchestrator) := by
  cases stage with
  | lookup r =>
    rcases stepLookup_cases c r with ⟨_, _, _, _, he⟩ | ⟨_, _, _, _, he⟩
    · simp [step, he]
    · simp [step, he]
  | fetching r =>
    simp only [step, stepFetch]
    generalize hrun : c.orchestrator.fetchAll (query r cancel) c.clock c.metrics = run
    obtain ⟨_, _, he, _⟩ := afterFetch_cases { c with
      orchestrator := run.orchestrator, clock := run.clock, metrics := run.metrics } r run.result
    rw [he]
    exact ⟨rfl, Or.inr ⟨_, _, _, by rw [hrun]⟩⟩
  | upserting r batch =>
    rcases stepUpsert_cases c r batch with ⟨_, _, _, he⟩ | ⟨_, _, _, he⟩
    · simp [step, he]
    · simp [step, he]
  | reading r =>
    obtain ⟨_, _, ⟨_, he⟩ | ⟨_, he⟩ | he⟩ := stepRead_cases c r
    all_goals simp [step, he]
  | completing r items total =>
    obtain ⟨_, _, he | he⟩ := stepComplete_cases c r items total
    all_goals simp [step, he, writeFailed]
  | caching r items total all =>
    obtain ⟨_, _, ⟨_, he⟩ | ⟨_, he | he⟩⟩ := stepCache_cases c r items total all
    all_goals simp [step, he, writeFailed]
  | finished outcome => exact ⟨rfl, Or.inl rfl⟩

/-- What a fetch brings is scored, and then it is without a fault. -/
theorem afterFetch_fit {c : Coordinator} {result : Result} (r : Request)
    (hscorer : c.scorer = relevanceScorer)
    (h : ∀ fetched, result = .records fetched → ∀ r ∈ fetched, r.Addressed) :
    (c.afterFetch r result).1.Fit := by
  cases result with
  | crashed => trivial
  | allFailed failures => trivial
  | records fetched =>
    have hbatch : (c.score fetched).1 = fetched.map (Record.scoredAt c.clock.wall) := by
      unfold score
      rw [hscorer]
      rfl
    unfold afterFetch
    simp only
    rw [hbatch]
    split
    · trivial
    · intro scored hscored
      obtain ⟨r, hr, rfl⟩ := List.mem_map.mp hscored
      exact (h fetched rfl r hr).fault? _

end Coordinator

end Search

/-! ## Services of settings -/

namespace Config.Settings

open Fetch Search

/-- What a service of the settings comes to. It starts as they are put together; then a search takes
a stage, what surrounds a provider changes, or there is another store, cache or time. -/
inductive Reaches (s : Settings) : Coordinator → Prop where
  | start (outside : Feed.Surroundings) (clock : Clock) : s.Reaches (s.coordinator outside clock)
  | step {c : Coordinator} (h : s.Reaches c) (cancel : Cancel) (stage : Stage) :
      s.Reaches (c.step cancel stage).2
  | change {c : Coordinator} (h : s.Reaches c) {p : ProviderSettings} (hp : p ∈ s.providers)
      (outside : Feed.Surroundings) : s.Reaches { c with
        orchestrator := c.orchestrator.exchange (p.provider.adapter outside) }
  | resume {c : Coordinator} (h : s.Reaches c) (store : StoreLink) (cache : CacheLink)
      (clock : Clock) (metrics : Metrics) : s.Reaches { c with store, cache, clock, metrics }

variable {s : Settings} {c : Coordinator}

theorem Reaches.serves (h : s.Reaches c) :
    s.Serves c.orchestrator ∧ c.scorer = relevanceScorer := by
  induction h with
  | start outside clock => exact ⟨s.serves_orchestrator outside, rfl⟩
  | step _ cancel stage ih =>
    obtain ⟨hserves, hscorer⟩ := ih
    obtain ⟨hkept, he | ⟨q, clock, metrics, he⟩⟩ := Coordinator.step_orchestrator _ cancel stage
    · rw [he, hkept]
      exact ⟨hserves, hscorer⟩
    · rw [he, hkept]
      exact ⟨hserves.fetchAll q clock metrics, hscorer⟩
  | change _ hp outside ih => exact ⟨ih.1.exchange hp outside, ih.2⟩
  | resume _ _ _ _ _ ih => exact ih

theorem Reaches.fetched (h : s.Reaches c) (hs : s.Named) {q : Query} {clock : Clock}
    {metrics : Metrics} {fetched : List Record}
    (hf : (c.orchestrator.fetchAll q clock metrics).result = .records fetched) :
    ∀ r ∈ fetched, r.Addressed :=
  h.serves.1.addressed hs hf

theorem Reaches.fit (h : s.Reaches c) (hs : s.Named) (cancel : Cancel) {stage : Stage}
    (hfit : stage.Fit) : (c.step cancel stage).1.Fit := by
  cases stage with
  | lookup r =>
    rcases Coordinator.stepLookup_cases c r with ⟨_, _, _, _, he⟩ | ⟨_, _, _, _, he⟩
    · simp only [Coordinator.step, he]
      trivial
    · simp only [Coordinator.step, he]
      trivial
  | fetching r =>
    show (Coordinator.afterFetch _ r _).1.Fit
    apply Coordinator.afterFetch_fit
    · exact h.serves.2
    · intro fetched hresult
      exact h.fetched hs hresult
  | upserting r batch =>
    simp only [Coordinator.step, Coordinator.stepUpsert]
    split
    · rename_i e store hu
      exact Stage.fit_unavailable _ (StoreLink.upsert_error hfit (congrArg Prod.fst hu))
    · trivial
  | reading r =>
    simp only [Coordinator.step, Coordinator.stepRead]
    split
    · rename_i e store hu
      exact Stage.fit_unavailable _ (StoreLink.search_error (congrArg Prod.fst hu))
    · split
      · trivial
      · trivial
  | completing r items total =>
    obtain ⟨_, _, he | he⟩ := Coordinator.stepComplete_cases c r items total
    all_goals
      simp only [Coordinator.step, he]
      trivial
  | caching r items total all =>
    obtain ⟨_, _, ⟨_, he⟩ | ⟨_, he | he⟩⟩ := Coordinator.stepCache_cases c r items total all
    all_goals
      simp only [Coordinator.step, he]
      trivial
  | finished outcome => exact hfit

theorem Reaches.run_fit (h : s.Reaches c) (hs : s.Named) (cancel : Cancel) {stage : Stage}
    (hfit : stage.Fit) (n : Nat) : (c.run cancel stage n).1.Fit := by
  induction n generalizing c stage with
  | zero => exact hfit
  | succ n ih =>
    rw [Coordinator.run_succ]
    exact ih (h.step cancel stage) (h.fit hs cancel hfit)

/-! ## The law -/

/-- Of accepted settings, every record that a provider reads from a payload, whatever the payload
counts, is without a fault once it is scored, at whatever moment. So is every record that a service
fetches: a store takes the whole of it, and no search fails for one of its records. -/
theorem a_configured_feed_never_spoils_a_batch (hs : s.Accepted) :
    (∀ p ∈ s.providers, ∀ body kind fetchedAt all,
      Feed.records p.format p.name body kind fetchedAt = .ok all →
        ∀ r ∈ all, ∀ now, Store.fault? (r.scoredAt now) = none) ∧
    ∀ c, s.Reaches c →
      (∀ q fetched, (c.orchestrator.fetchAll q c.clock c.metrics).result = .records fetched →
        ∀ (store : Store) now,
          ∃ answer, store.upsert (fetched.map (Record.scoredAt now)) = .ok answer) ∧
      ∀ r cancel operation index reason,
        (c.search r cancel).1 ≠ .failed (.storage operation (.invalidRecord index reason)) := by
  have hnamed := hs.named
  constructor
  · intro p hp body kind fetchedAt all hrecords r hr now
    exact (Feed.records_addressed (hnamed p hp) hrecords r hr).fault? now
  · intro c hc
    constructor
    · intro q fetched hfetched store now
      exact store.upsert_scored (hc.fetched hnamed hfetched) now
    · intro r cancel operation index reason hfailed
      let first := Stage.lookup (normalize c.limits r)
      have hend : (c.run cancel first Coordinator.maxStages).1 =
          .finished (.failed (.storage operation (.invalidRecord index reason))) := by
        rw [c.run_finished cancel first (n := Coordinator.maxStages) (Nat.le_refl _)]
        exact congrArg Stage.finished hfailed
      have hfirst : first.Fit := trivial
      have hfit := hc.run_fit hnamed cancel hfirst Coordinator.maxStages
      rw [hend] at hfit
      exact hfit

/-! ## A feed of one video -/

/-- One provider, its fields in their order and its name between blanks. -/
def newsText : String := "providers = [[\" news \", \"json\", \"news.json\"]]"

def newsSettings : Settings :=
  { Settings.standard with providers := [⟨"news", .json, "news.json", 5000, 3, 1000, 60⟩] }

theorem newsText_accepted : Settings.ofText newsText = .ok newsSettings := by
  decide +kernel

/-- A video that nobody has seen, with as many likes as can be counted. -/
def newsBody : String :=
  "\x7b\"contents\": [\x7b\"id\": \" 7 \", \"type\": \"video\", \"metrics\": " ++
    "\x7b\"likes\": 18446744073709551615\x7d\x7d]\x7d"

/-- The record of this video. -/
def mostLiked : Record :=
  { Record.unseen "news" "news_7" "" with kind := .video, likes := 18446744073709551615 }

theorem newsBody_records :
    Feed.records .json "news" newsBody none ⟨0, 0⟩ = .ok [mostLiked] := by
  decide +kernel

/-- A service of these settings, with the feed in a file, at the start of its clock. -/
def newsService : Coordinator :=
  newsSettings.coordinator
    { files := .ofTable [("news.json", .ok newsBody)], web := Feed.noWeb } ⟨0, ⟨0, 0⟩⟩

/-- A fetch for anything. -/
def everything : Query := ⟨"", none, .never⟩

theorem newsService_fetches :
    (newsService.orchestrator.fetchAll everything newsService.clock newsService.metrics).result =
      .records [mostLiked] := by
  decide +kernel

/-- The store takes the video. -/
theorem the_most_likes_spoil_no_batch :
    newsSettings.Accepted ∧ newsSettings.Reaches newsService ∧
      Feed.records .json "news" newsBody none ⟨0, 0⟩ = .ok [mostLiked] ∧
      Store.fault? (mostLiked.scoredAt ⟨0, 0⟩) = none ∧
      (newsService.orchestrator.fetchAll everything newsService.clock newsService.metrics).result =
        .records [mostLiked] ∧
      (∃ answer, Store.empty.upsert [mostLiked.scoredAt ⟨0, 0⟩] = .ok answer) ∧
      ∀ operation index reason, (newsService.search (.ofQuery "x") .never).1 ≠
        .failed (.storage operation (.invalidRecord index reason)) := by
  have haccepted : newsSettings.Accepted := .ofText newsText newsText_accepted
  have hreaches : newsSettings.Reaches newsService := .start _ _
  obtain ⟨hrecords, hservice⟩ := a_configured_feed_never_spoils_a_batch haccepted
  obtain ⟨hbatch, hsearch⟩ := hservice newsService hreaches
  refine ⟨haccepted, hreaches, newsBody_records, ?_, newsService_fetches, ?_, ?_⟩
  · exact hrecords _ (.head _) newsBody none ⟨0, 0⟩ _ newsBody_records _ (.head _) _
  · exact hbatch everything _ newsService_fetches .empty ⟨0, 0⟩
  · exact hsearch (.ofQuery "x") .never

end Config.Settings

end FeedSearch
