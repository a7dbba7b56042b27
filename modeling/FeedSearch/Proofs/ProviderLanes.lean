-- Providers in a run of fetches. A run has a lane for every provider: its breaker, its
-- calls in the air, and what its breaker has seen. Only calls of the provider move
-- its lane, and only by when they are made and how they end.
import FeedSearch.Proofs.FetchTraffic

namespace FeedSearch.Fetch

/-! ## What a breaker goes through -/

/-- A breaker is asked for a call, and admits it or not; or it is told that a call has succeeded or
failed. -/
inductive BreakerEvent where
  | asked (admitted : Bool)
  | told (succeeded : Bool)
  deriving DecidableEq, Repr

/-- An event in the life of a breaker, and how the breaker is before and after it. -/
structure BreakerSight where
  time : Instant
  event : BreakerEvent
  before : Breaker
  after : Breaker
  deriving DecidableEq, Repr

/-- How the end of a call counts for its breaker: as a success, as a failure, or not at all. -/
def Outcome.verdict : Outcome → Option Bool
  | .records _ => some true
  | .failure .breakerOpen => none
  | .failure _ => some false
  | .crash => none

/-- What the breaker of a provider sees of a line; nothing if the line is about others. -/
def TrafficLine.sight? (line : TrafficLine) (p : String) : Option BreakerSight :=
  let before := line.before.current p
  let after := line.after.current p
  match line.happening with
  | .started landings =>
    (landings.find? (·.provider == p)).map fun l =>
      ⟨line.time, .asked (l.outcome != .failure .breakerOpen), before, after⟩
  | .ended l =>
    if l.provider == p then l.outcome.verdict.map fun ok => ⟨line.time, .told ok, before, after⟩
    else none

/-- All that the breaker of a provider has seen, the latest first. -/
def Traffic.history (t : Traffic) (p : String) : List BreakerSight := t.log.filterMap (·.sight? p)

/-- A history that leads from one breaker to another and leaves nothing out: every event finds the
breaker as the one before has left it. -/
def Unbroken (first : Breaker) : List BreakerSight → Breaker → Prop
  | [], now => now = first
  | s :: earlier, now => now = s.after ∧ Unbroken first earlier s.before

end FeedSearch.Fetch

namespace FeedSearch.Breaker

/-- A breaker that is told how a call has ended. -/
def told (c : BreakerConfig) (b : Breaker) (verdict : Option Bool) (now : Instant) : Breaker :=
  match verdict with
  | some true => b.onSuccess
  | some false => b.onFailure c now
  | none => b

end FeedSearch.Breaker

namespace FeedSearch.Fetch

/-- The end of a call tells the breaker of its provider, if there is one. -/
theorem find?_settleBreaker_self (bs : Breakers) (l : Landing) (now : Instant) :
    (settleBreaker bs l now).find? l.provider =
      (bs.find? l.provider).map (·.told bs.config l.outcome.verdict now) := by
  have hsame : bs.find? l.provider = (bs.find? l.provider).map fun b => b := by simp
  unfold settleBreaker
  cases ho : l.outcome with
  | records records => exact Breakers.find?_modify_self _ _ _
  | failure cause =>
    cases cause with
    | breakerOpen => exact hsame
    | cancelled => exact Breakers.find?_modify_self _ _ _
    | timedOut limit => exact Breakers.find?_modify_self _ _ _
    | provider chain => exact Breakers.find?_modify_self _ _ _
  | crash => exact hsame

/-! ## The lane of a provider -/

/-- What is left of a run for one provider: its breaker, when its calls in the air end and how that
counts, and what its breaker has seen. -/
structure Lane where
  breaker : Breaker
  inAir : List (Instant × Option Bool)
  history : List BreakerSight

/-- A call of the lane ends. -/
def Lane.land (c : BreakerConfig) (v : Lane) (f : Instant × Option Bool) : Lane :=
  let after := v.breaker.told c f.2 f.1
  { v with
    breaker := after
    history := (f.2.map fun ok => ⟨f.1, .told ok, v.breaker, after⟩).toList ++ v.history }

/-- The calls of the lane that are due end. -/
def Lane.landDue (c : BreakerConfig) (v : Lane) (time : Instant) : Lane :=
  (v.inAir.filter (·.1 ≤ time)).foldl (Lane.land c)
    { v with inAir := v.inAir.filter (time < ·.1) }

/-- All calls of the lane end. -/
def Lane.landAll (c : BreakerConfig) (v : Lane) : Lane :=
  v.inAir.foldl (Lane.land c) { v with inAir := [] }

/-- A call of the lane starts and will end so long after. -/
def Lane.takeOff (c : BreakerConfig) (v : Lane) (now : Instant) (millis : Nat)
    (verdict : Option Bool) : Lane :=
  let (admitted, after) := v.breaker.enter c now
  { breaker := after
    inAir := v.inAir.merge [(now + 1000000 * millis, verdict)] (fun f g => f.1 ≤ g.1)
    history := ⟨now, .asked admitted, v.breaker, after⟩ :: v.history }

/-- What the lane of a provider has to do with a call in the air. -/
def Flight.view (f : Flight) : Instant × Option Bool := (f.due, f.landing.outcome.verdict)

/-- What a run leaves to one provider. -/
def Traffic.lane (t : Traffic) (p : String) : Lane where
  breaker := t.orchestrator.breakers.current p
  inAir := (t.inAir.filter (·.landing.provider == p)).map Flight.view
  history := t.history p

/-- The history of the lane leads to its breaker. -/
def Lane.Unbroken (first : Breaker) (v : Lane) : Prop := Fetch.Unbroken first v.history v.breaker

namespace Lane.Unbroken

variable {first : Breaker} {v : Lane}

theorem land (h : v.Unbroken first) (c : BreakerConfig) (f : Instant × Option Bool) :
    (v.land c f).Unbroken first := by
  rcases f with ⟨time, _ | ok⟩
  · exact h
  · exact ⟨rfl, h⟩

theorem foldl_land (h : v.Unbroken first) (c : BreakerConfig)
    (flights : List (Instant × Option Bool)) : (flights.foldl (Lane.land c) v).Unbroken first :=
  List.foldlRecOn flights (Lane.land c) h fun _ hv f _ => hv.land c f

theorem landDue (h : v.Unbroken first) (c : BreakerConfig) (time : Instant) :
    (v.landDue c time).Unbroken first :=
  foldl_land (v := { v with inAir := v.inAir.filter (time < ·.1) }) h c _

theorem landAll (h : v.Unbroken first) (c : BreakerConfig) : (v.landAll c).Unbroken first :=
  foldl_land (v := { v with inAir := [] }) h c _

theorem takeOff (h : v.Unbroken first) (c : BreakerConfig) (now : Instant) (millis : Nat)
    (verdict : Option Bool) : (v.takeOff c now millis verdict).Unbroken first := ⟨rfl, h⟩

end Lane.Unbroken

namespace Traffic

variable {t : Traffic}

/-! ## Ends of calls -/

/-- The end of a call of the provider is one in its lane. -/
theorem land_lane_self {f : Flight}
    (h : (t.orchestrator.breakers.find? f.landing.provider).isSome) :
    (t.land f).lane f.landing.provider =
      (t.lane f.landing.provider).land t.orchestrator.breakers.config f.view := by
  obtain ⟨b, hb⟩ := Option.isSome_iff_exists.mp h
  have hafter : (t.land f).orchestrator.breakers.current f.landing.provider =
      (t.orchestrator.breakers.current f.landing.provider).told t.orchestrator.breakers.config
        f.landing.outcome.verdict f.due := by
    rw [Breakers.current, land_breakers, find?_settleBreaker_self, Breakers.current, hb]
    rfl
  have hhistory : (t.land f).history f.landing.provider =
      (f.landing.outcome.verdict.map fun ok => ⟨f.due, .told ok,
        t.orchestrator.breakers.current f.landing.provider,
        (t.land f).orchestrator.breakers.current f.landing.provider⟩).toList ++
        t.history f.landing.provider := by
    have hlog : (t.land f).log = ⟨f.due, .ended f.landing, t.orchestrator.breakers,
        (t.land f).orchestrator.breakers⟩ :: t.log := rfl
    rw [Traffic.history, hlog, List.filterMap_cons]
    simp only [TrafficLine.sight?, beq_self_eq_true, if_true]
    cases f.landing.outcome.verdict <;> rfl
  unfold Traffic.lane Lane.land
  rw [hhistory, hafter]
  rfl

/-- The end of a call of another provider is none in the lane. -/
theorem land_lane_other {f : Flight} {p : String} (hp : f.landing.provider ≠ p) :
    (t.land f).lane p = t.lane p := by
  have hbreaker : (t.land f).orchestrator.breakers.current p =
      t.orchestrator.breakers.current p := by
    rw [Breakers.current, land_breakers, find?_settleBreaker_ne _ _ _ hp.symm, Breakers.current]
  have hhistory : (t.land f).history p = t.history p := by
    refine List.filterMap_cons_none ?_
    have hne : (f.landing.provider == p) = false := by simp [hp]
    simp only [TrafficLine.sight?, hne, Bool.false_eq_true, if_false]
  unfold Traffic.lane
  rw [hbreaker, hhistory]
  rfl

/-- The ends of many calls are, in the lane, those of the calls of its provider. -/
theorem foldl_land_lane (flights : List Flight) (p : String)
    (h : ∀ f ∈ flights, (t.orchestrator.breakers.find? f.landing.provider).isSome) :
    (flights.foldl land t).lane p =
      ((flights.filter (·.landing.provider == p)).map Flight.view).foldl
        (Lane.land t.orchestrator.breakers.config) (t.lane p) := by
  induction flights generalizing t with
  | nil => rfl
  | cons f rest ih =>
    have hrest := ih (t := t.land f) fun g hg => foldl_land_asked [f] (h g (.tail f hg))
    rw [List.foldl_cons, hrest, land_config]
    by_cases hp : (f.landing.provider == p) = true
    · obtain rfl := eq_of_beq hp
      rw [land_lane_self (h f (.head _)), List.filter_cons_of_pos (by simp)]
      rfl
    · rw [land_lane_other (by simpa using hp), List.filter_cons_of_neg (by simpa using hp)]

/-- Calls in the air may be picked by their times before or after those of a provider are. -/
theorem filter_view (flights : List Flight) (p : String) (when : Instant → Bool) :
    ((flights.filter (·.landing.provider == p)).map Flight.view).filter (when ·.1) =
      ((flights.filter (when ·.due)).filter (·.landing.provider == p)).map Flight.view := by
  rw [List.filter_map, List.filter_filter, List.filter_filter]
  refine congrArg (List.map Flight.view) (List.filter_congr fun f _ => ?_)
  exact Bool.and_comm _ _

theorem landAll_lane (h : t.Sound) (p : String) :
    t.landAll.lane p = (t.lane p).landAll t.orchestrator.breakers.config := by
  have hall := foldl_land_lane (t := { t with inAir := [] }) t.inAir p h.asked
  exact hall

theorem landDue_lane (h : t.Sound) (time : Instant) (p : String) :
    (t.landDue time).lane p = (t.lane p).landDue t.orchestrator.breakers.config time := by
  have hdue := foldl_land_lane (t := { t with inAir := t.inAir.filter (time < ·.due) })
    (t.inAir.filter (·.due ≤ time)) p fun f hf => h.asked f (List.mem_filter.mp hf).1
  unfold Lane.landDue
  have hin : ((t.lane p).inAir.filter (·.1 ≤ time)) =
      ((t.inAir.filter (·.due ≤ time)).filter (·.landing.provider == p)).map Flight.view :=
    filter_view t.inAir p (· ≤ time)
  have hout : ((t.lane p).inAir.filter (time < ·.1)) =
      ((t.inAir.filter (time < ·.due)).filter (·.landing.provider == p)).map Flight.view :=
    filter_view t.inAir p (time < ·)
  rw [hin, hout]
  exact hdue

end Traffic

/-! ## Merging lanes -/

theorem merge_cons_left {f : Flight} {fs gs : List Flight} (h : ∀ g ∈ gs, f.noLater g = true) :
    (f :: fs).merge gs Flight.noLater = f :: fs.merge gs Flight.noLater := by
  cases gs with
  | nil => simp
  | cons g gs => exact List.cons_merge_cons_pos _ _ _ (h g (.head _))

theorem merge_cons_right {g : Flight} {fs gs : List Flight} (h : ∀ f ∈ fs, ¬ f.noLater g = true) :
    fs.merge (g :: gs) Flight.noLater = g :: fs.merge gs Flight.noLater := by
  cases fs with
  | nil => simp
  | cons f fs => exact List.cons_merge_cons_neg _ _ _ (h f (.head _))

/-- Of two lists that are merged, some calls are those of the one merged with those of the other. -/
theorem filter_merge (some : Flight → Bool) {fs gs : List Flight}
    (hfs : fs.Pairwise (Flight.noLater · · = true))
    (hgs : gs.Pairwise (Flight.noLater · · = true)) :
    (fs.merge gs Flight.noLater).filter some =
      (fs.filter some).merge (gs.filter some) Flight.noLater := by
  induction fs generalizing gs with
  | nil => simp
  | cons f fs ihf =>
    induction gs with
    | nil => simp
    | cons g gs ihg =>
      obtain ⟨hf, hfs'⟩ := List.pairwise_cons.mp hfs
      obtain ⟨hg, hgs'⟩ := List.pairwise_cons.mp hgs
      by_cases hfg : f.noLater g = true
      · rw [List.cons_merge_cons_pos _ _ _ hfg]
        have hfirst : ∀ x ∈ (g :: gs).filter some, f.noLater x = true := by
          intro x hx
          rcases List.mem_cons.mp (List.mem_filter.mp hx).1 with rfl | hx
          · exact hfg
          · exact noLater_sorts.trans _ _ _ hfg (hg x hx)
        by_cases hs : some f = true
        · rw [List.filter_cons_of_pos hs, List.filter_cons_of_pos hs, merge_cons_left hfirst,
            ihf hfs' hgs]
        · rw [List.filter_cons_of_neg hs, List.filter_cons_of_neg hs, ihf hfs' hgs]
      · rw [List.cons_merge_cons_neg _ _ _ hfg]
        have hfirst : ∀ x ∈ (f :: fs).filter some, ¬ x.noLater g = true := by
          intro x hx hxg
          rcases List.mem_cons.mp (List.mem_filter.mp hx).1 with rfl | hx
          · exact hfg hxg
          · exact hfg (noLater_sorts.trans _ _ _ (hf x hx) hxg)
        by_cases hs : some g = true
        · rw [List.filter_cons_of_pos hs, List.filter_cons_of_pos hs, merge_cons_right hfirst,
            ihg hgs']
        · rw [List.filter_cons_of_neg hs, List.filter_cons_of_neg hs, ihg hgs']

/-! ## Starts of calls -/

section Members

variable {deadline : Time.Span} {q : Query} {admits : String → Bool}
variable {members members' : List Member} {landings : List Landing}

theorem ServedAll.providers (h : ServedAll deadline q admits members landings members') :
    landings.map (·.provider) = members.map (·.adapter.name) := by
  induction h with
  | nil => rfl
  | cons h _ ih => rw [List.map_cons, List.map_cons, h.provider, ih]

/-- What becomes of one member among others of other names. -/
theorem ServedAll.of_member (h : ServedAll deadline q admits members landings members')
    (hnames : (members.map (·.adapter.name)).Nodup) {m : Member} (hm : m ∈ members) :
    ∃ l, ∃ m' ∈ members', Served deadline q (admits m.adapter.name) m l m' ∧
      landings.filter (·.provider == m.adapter.name) = [l] := by
  induction h with
  | nil => cases hm
  | @cons n n' l rest rest' landings h hrest ih =>
    rw [List.map_cons, List.nodup_cons] at hnames
    obtain ⟨hnew, hnames'⟩ := hnames
    rcases List.mem_cons.mp hm with rfl | hm
    · refine ⟨l, n', .head _, h, ?_⟩
      have hnone : landings.filter (·.provider == m.adapter.name) = [] := by
        rw [List.filter_eq_nil_iff]
        intro l' hl' hp
        have hmem : l'.provider ∈ landings.map (·.provider) := List.mem_map_of_mem hl'
        rw [eq_of_beq hp, hrest.providers] at hmem
        exact hnew hmem
      rw [List.filter_cons_of_pos (by simp [h.provider]), hnone]
    · obtain ⟨l', m', hm', hserved, honly⟩ := ih hnames' hm
      have hne : n.adapter.name ≠ m.adapter.name := by
        intro he
        rw [he] at hnew
        exact hnew (List.mem_map_of_mem hm)
      refine ⟨l', m', .tail _ hm', hserved, ?_⟩
      rw [List.filter_cons_of_neg (by simp [h.provider, hne]), honly]

end Members

/-- No call that was made ends as one that was rejected. -/
theorem guardCall_ne_breakerOpen (deadline : Time.Span) (cancel : Cancel) (reply : Reply) :
    (guardCall deadline cancel reply).2 ≠ .failure .breakerOpen := by
  have hgive : (giveUp deadline cancel).2 ≠ .failure .breakerOpen := by
    unfold giveUp
    simp only
    split
    · split <;> simp
    · simp
  unfold guardCall
  split
  · simp
  · split
    · split
      · cases reply.answer <;> simp [Outcome.ofAnswer]
      · exact hgive
    · exact hgive

/-- The breaker rejects a call exactly if it ends as one that was rejected. -/
theorem Served.admitted {deadline : Time.Span} {q : Query} {admitted : Bool} {m m' : Member}
    {l : Landing} (h : Served deadline q admitted m l m') :
    (l.outcome != .failure .breakerOpen) = admitted := by
  cases h with
  | rejected h => rw [h]; rfl
  | givenUp h _ => rw [h]; rfl
  | called h _ wall => rw [h]; exact bne_iff_ne.mpr (guardCall_ne_breakerOpen _ _ _)

namespace Traffic

variable {t : Traffic}

/-- The start of a fetch without crashes is, in the lane of a member, the start of one call. -/
theorem takeOff_lane (h : t.Sound) {m : Member} (hm : m ∈ t.orchestrator.members) (q : Query)
    (hcalm : ∀ l ∈ t.orchestrator.landings q t.clock t.metrics, l.outcome.isCrash = false) :
    ∃ l, ∃ m' ∈ (t.takeOff q).orchestrator.members,
      Served t.orchestrator.deadline q
        (t.orchestrator.breakers.admits m.adapter.name t.clock.running) m l m' ∧
      (t.takeOff q).lane m.adapter.name =
        (t.lane m.adapter.name).takeOff t.orchestrator.breakers.config t.clock.running l.millis
          l.outcome.verdict := by
  obtain ⟨l, m', hm', hserved, honly⟩ :=
    ((takeOff_started h q).served hcalm).of_member h.names hm
  refine ⟨l, m', hm', hserved, ?_⟩
  -- the breaker has been asked
  have hbreaker : (t.takeOff q).orchestrator.breakers.current m.adapter.name =
      ((t.orchestrator.breakers.current m.adapter.name).enter t.orchestrator.breakers.config
        t.clock.running).2 := by
    have hmem :
        m.adapter.name ∈ (t.orchestrator.landings q t.clock t.metrics).map (·.provider) := by
      have hl : l ∈ t.orchestrator.landings q t.clock t.metrics :=
        (List.mem_filter.mp (honly ▸ List.mem_singleton_self l)).1
      exact hserved.provider ▸ List.mem_map_of_mem hl
    rw [Breakers.current, takeOff_find? h, if_pos hmem, Breakers.find?_enter_self]
    rfl
  -- one more call is in the air
  have hinAir :
      ((t.takeOff q).inAir.filter (·.landing.provider == m.adapter.name)).map Flight.view =
      (t.lane m.adapter.name).inAir.merge
        [(t.clock.running + 1000000 * l.millis, l.outcome.verdict)] (fun f g => f.1 ≤ g.1) := by
    have hone : (t.flights q).filter (·.landing.provider == m.adapter.name) =
        [⟨(t.clock.pass l.millis).running, l⟩] := by
      have hperm := (List.mergeSort_perm (t.orchestrator.landings q t.clock t.metrics)
        fun a b => a.millis ≤ b.millis).filter (·.provider == m.adapter.name)
      rw [honly] at hperm
      rw [flights, List.filter_map]
      exact congrArg (List.map _) (List.perm_singleton.mp hperm)
    rw [takeOff_inAir, filter_merge _ h.sorted (t.flights_sorted q), hone]
    exact List.map_merge fun _ _ _ _ => rfl
  -- it has been admitted or not
  have hhistory : (t.takeOff q).history m.adapter.name =
      ⟨t.clock.running, .asked ((t.orchestrator.breakers.current m.adapter.name).enter
          t.orchestrator.breakers.config t.clock.running).1,
        t.orchestrator.breakers.current m.adapter.name,
        (t.takeOff q).orchestrator.breakers.current m.adapter.name⟩ ::
        t.history m.adapter.name := by
    refine List.filterMap_cons_some ?_
    have hfirst : (t.orchestrator.landings q t.clock t.metrics).find?
        (·.provider == m.adapter.name) = some l := by
      rw [← List.head?_filter, honly]
      rfl
    show Option.map _ ((t.orchestrator.landings q t.clock t.metrics).find? _) = _
    rw [hfirst, Option.map_some, hserved.admitted, Breakers.admits_eq]
    rfl
  unfold Traffic.lane Lane.takeOff
  rw [hinAir, hhistory, hbreaker]
  rfl
end Traffic

end FeedSearch.Fetch
