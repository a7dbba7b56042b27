-- Fetches that overlap. A fetch starts all its calls at one time, and they are in
-- the air until they end, while other fetches start. Calls end in the order of time,
-- at the same time in the order in which they started, and before a fetch that starts
-- then. A log says what has happened and how it found and left the breakers. Fetches
-- that do not overlap leave what they leave one after another.
import FeedSearch.Proofs.FetchPartition
import Mathlib.Data.List.Pairwise
import Mathlib.Data.List.TakeWhile

namespace FeedSearch.Fetch

/-! ## Runs -/

/-- A call that has been started, and the time at which it ends. -/
structure Flight where
  due : Instant
  landing : Landing

/-- Whether a call ends no later than another. -/
def Flight.noLater (f g : Flight) : Bool := f.due ≤ g.due

/-- What happens in a run: a fetch starts its calls, or a call ends. -/
inductive Happening where
  | started (landings : List Landing)
  | ended (landing : Landing)

/-- A line of the log: what has happened when, and the breakers before and after it. -/
structure TrafficLine where
  time : Instant
  happening : Happening
  before : Breakers
  after : Breakers

/-- Fetches under way: the calls in the air, those that end first in front, and all that has
happened, the latest first. -/
structure Traffic where
  orchestrator : Orchestrator
  clock : Clock
  metrics : Metrics
  inAir : List Flight
  log : List TrafficLine

/-- When a fetch starts, and what it asks for. -/
structure Ask where
  time : Instant
  query : Query

namespace Traffic

/-- An orchestrator before its first fetch. -/
def of (o : Orchestrator) (clock : Clock) (metrics : Metrics) : Traffic :=
  { orchestrator := o, clock, metrics, inAir := [], log := [] }

/-- A call ends when it is due. -/
def land (t : Traffic) (f : Flight) : Traffic :=
  let before := t.orchestrator.breakers
  let field := Fetch.land ⟨before, t.clock, t.metrics⟩ f.landing f.due
  { t with
    orchestrator := { t.orchestrator with breakers := field.breakers }
    metrics := field.metrics
    log := ⟨f.due, .ended f.landing, before, field.breakers⟩ :: t.log }

/-- Time goes by, and the calls that are due end. -/
def landDue (t : Traffic) (time : Instant) : Traffic :=
  let due := t.inAir.filter (·.due ≤ time)
  let t := due.foldl land { t with inAir := t.inAir.filter (time < ·.due) }
  { t with clock := t.clock.moveTo time }

/-- All calls end. -/
def landAll (t : Traffic) : Traffic := t.inAir.foldl land { t with inAir := [] }

/-- A fetch starts now, and its calls join those in the air. -/
def takeOff (t : Traffic) (q : Query) : Traffic :=
  let before := t.orchestrator.breakers
  let (landings, members, f) :=
    startAll t.orchestrator.deadline q t.orchestrator.members ⟨before, t.clock, t.metrics⟩
  let flights : List Flight :=
    (inOrder landings).map fun l => ⟨(t.clock.pass l.millis).running, l⟩
  { orchestrator := { t.orchestrator with members, breakers := f.breakers }
    clock := f.clock
    metrics := f.metrics
    inAir := t.inAir.merge flights Flight.noLater
    log := ⟨t.clock.running, .started landings, before, f.breakers⟩ :: t.log }

/-- Fetches start one after another, and in the end all their calls end. -/
def run (t : Traffic) : List Ask → Traffic
  | [] => t.landAll
  | a :: rest => ((t.landDue a.time).takeOff a.query).run rest

/-- None of the calls that have been started crashes. -/
def Calm (t : Traffic) : Prop :=
  ∀ line ∈ t.log, ∀ landings, line.happening = .started landings →
    ∀ l ∈ landings, l.outcome.isCrash = false

end Traffic

/-! ## The order of ends -/

theorem noLater_iff {f g : Flight} : f.noLater g = true ↔ f.due ≤ g.due := decide_eq_true_iff

theorem noLater_sorts : Sorts Flight.noLater := .of_key Flight.due

/-! ## The start of a fetch -/

theorem startAll_field (deadline : Time.Span) (q : Query) (members : List Member) (f : Field) :
    (startAll deadline q members f).2.2.breakers.config = f.breakers.config ∧
      (startAll deadline q members f).2.2.clock.running = f.clock.running := by
  induction members generalizing f with
  | nil => exact ⟨rfl, rfl⟩
  | cons m rest ih =>
    obtain ⟨hbreakers, hrunning⟩ := start_field deadline q m f
    rcases hs : start deadline q m f with ⟨l, m', f'⟩
    rw [hs] at hbreakers hrunning
    have hconfig : f'.breakers.config = f.breakers.config := by
      rw [hbreakers, Breakers.enter_config]
    simp only [startAll, hs]
    split
    · exact ⟨hconfig, hrunning⟩
    · exact ⟨(ih f').1.trans hconfig, (ih f').2.trans hrunning⟩

/-- No member forgets the calls that have been made to it. -/
theorem Served.calls {deadline : Time.Span} {q : Query} {admitted : Bool} {m m' : Member}
    {l : Landing} (h : Served deadline q admitted m l m') : m.calls <+: m'.calls := by
  cases h with
  | rejected _ => exact List.prefix_refl _
  | givenUp _ _ => exact List.prefix_refl _
  | called _ _ wall => exact List.prefix_append _ _

theorem StartedAll.calls {deadline : Time.Span} {q : Query} {admits : String → Bool}
    {members members' : List Member} {landings : List Landing}
    (h : StartedAll deadline q admits members landings members') {m : Member} (hm : m ∈ members) :
    ∃ m' ∈ members', m'.adapter = m.adapter ∧ m.calls <+: m'.calls := by
  induction h with
  | nil => cases hm
  | @crashed n n' l rest h _ =>
    rcases List.mem_cons.mp hm with rfl | hm
    · exact ⟨n', .head _, h.adapter, h.calls⟩
    · exact ⟨m, .tail _ hm, rfl, List.prefix_refl _⟩
  | @cons n n' l rest rest' landings h _ ih =>
    rcases List.mem_cons.mp hm with rfl | hm
    · exact ⟨n', .head _, h.adapter, h.calls⟩
    · obtain ⟨m', hm', hcalls⟩ := ih hm
      exact ⟨m', .tail _ hm', hcalls⟩

/-- What every call preserves of a member holds after a fetch as well. -/
theorem StartedAll.forall_members {deadline : Time.Span} {q : Query} {admits : String → Bool}
    {members members' : List Member} {landings : List Landing} {P : Member → Prop}
    (h : StartedAll deadline q admits members landings members')
    (hserved : ∀ {admitted : Bool} {m m' : Member} {l : Landing},
      Served deadline q admitted m l m' → P m → P m')
    (hall : ∀ m ∈ members, P m) : ∀ m ∈ members', P m := by
  induction h with
  | nil => exact hall
  | crashed rest h _ =>
    obtain ⟨hm, hrest⟩ := List.forall_mem_cons.mp hall
    exact List.forall_mem_cons.mpr ⟨hserved h hm, hrest⟩
  | cons h _ ih =>
    obtain ⟨hm, hrest⟩ := List.forall_mem_cons.mp hall
    exact List.forall_mem_cons.mpr ⟨hserved h hm, ih hrest⟩

/-! ## What the end of a call does -/

theorem settleBreaker_config (bs : Breakers) (l : Landing) (now : Instant) :
    (settleBreaker bs l now).config = bs.config := by
  unfold settleBreaker
  split <;> rfl

/-- No breaker goes when a call ends. -/
theorem settleBreaker_isSome {bs : Breakers} {l : Landing} {now : Instant} {p : String}
    (h : (bs.find? p).isSome) : ((settleBreaker bs l now).find? p).isSome := by
  have hmodify : ∀ (name : String) (f : Breaker → Breaker), ((bs.modify name f).find? p).isSome :=
    fun name f => by rw [Breakers.find?_modify, Option.isSome_map]; exact h
  unfold settleBreaker
  split
  · exact hmodify _ _
  · exact h
  · exact hmodify _ _
  · exact h

namespace Traffic

variable {t : Traffic}

theorem land_breakers (t : Traffic) (f : Flight) : (t.land f).orchestrator.breakers =
    settleBreaker t.orchestrator.breakers f.landing f.due := by
  simp only [land, Fetch.land_breakers]

theorem land_config (t : Traffic) (f : Flight) :
    (t.land f).orchestrator.breakers.config = t.orchestrator.breakers.config := by
  rw [land_breakers, settleBreaker_config]

theorem foldl_land_members (flights : List Flight) (t : Traffic) :
    (flights.foldl land t).orchestrator.members = t.orchestrator.members :=
  List.foldlRecOn (motive := fun u => u.orchestrator.members = t.orchestrator.members) flights land
    rfl fun _ h _ _ => by exact h

theorem foldl_land_deadline (flights : List Flight) (t : Traffic) :
    (flights.foldl land t).orchestrator.deadline = t.orchestrator.deadline :=
  List.foldlRecOn (motive := fun u => u.orchestrator.deadline = t.orchestrator.deadline) flights
    land rfl fun _ h _ _ => by exact h

theorem foldl_land_config (flights : List Flight) (t : Traffic) :
    (flights.foldl land t).orchestrator.breakers.config = t.orchestrator.breakers.config :=
  List.foldlRecOn
    (motive := fun u => u.orchestrator.breakers.config = t.orchestrator.breakers.config) flights
    land rfl fun u h f _ => (u.land_config f).trans h

theorem foldl_land_inAir (flights : List Flight) (t : Traffic) :
    (flights.foldl land t).inAir = t.inAir :=
  List.foldlRecOn (motive := fun u => u.inAir = t.inAir) flights land rfl fun _ h _ _ => by
    exact h

theorem foldl_land_asked (flights : List Flight) {p : String}
    (h : (t.orchestrator.breakers.find? p).isSome) :
    ((flights.foldl land t).orchestrator.breakers.find? p).isSome :=
  List.foldlRecOn (motive := fun u => (u.orchestrator.breakers.find? p).isSome) flights land h
    fun u hu f _ => by rw [land_breakers]; exact settleBreaker_isSome hu

theorem landAll_members (t : Traffic) : t.landAll.orchestrator.members = t.orchestrator.members :=
  foldl_land_members _ _

theorem landDue_members (t : Traffic) (time : Instant) :
    (t.landDue time).orchestrator.members = t.orchestrator.members := foldl_land_members _ _

theorem landDue_deadline (t : Traffic) (time : Instant) :
    (t.landDue time).orchestrator.deadline = t.orchestrator.deadline := foldl_land_deadline _ _

theorem landDue_config (t : Traffic) (time : Instant) :
    (t.landDue time).orchestrator.breakers.config = t.orchestrator.breakers.config :=
  foldl_land_config _ _

theorem landDue_inAir (t : Traffic) (time : Instant) :
    (t.landDue time).inAir = t.inAir.filter (time < ·.due) := foldl_land_inAir _ _

/-! ## What the start of a fetch does -/

/-- The calls of a fetch that starts now, in the order in which they will end. -/
def flights (t : Traffic) (q : Query) : List Flight :=
  (inOrder (t.orchestrator.landings q t.clock t.metrics)).map fun l =>
    ⟨(t.clock.pass l.millis).running, l⟩

theorem takeOff_inAir (t : Traffic) (q : Query) :
    (t.takeOff q).inAir = t.inAir.merge (t.flights q) Flight.noLater := rfl

/-- A fetch starts now, and its calls stand behind those in the air. -/
def takeOffBehind (t : Traffic) (q : Query) : Traffic :=
  { t.takeOff q with inAir := t.inAir ++ t.flights q }

/-- Calls that end no earlier than those in the air stand behind them. -/
theorem takeOff_eq_behind {t : Traffic} {q : Query}
    (h : ∀ f ∈ t.inAir, ∀ g ∈ t.flights q, f.noLater g = true) :
    t.takeOff q = t.takeOffBehind q := by
  have hinAir : (t.takeOff q).inAir = t.inAir ++ t.flights q :=
    List.merge_of_le fun f g hf hg => h f hf g hg
  rw [takeOffBehind, ← hinAir]

theorem takeOff_config (t : Traffic) (q : Query) :
    (t.takeOff q).orchestrator.breakers.config = t.orchestrator.breakers.config :=
  (startAll_field _ _ _ _).1

theorem flights_sorted (t : Traffic) (q : Query) :
    (t.flights q).Pairwise (Flight.noLater · · = true) := by
  refine List.pairwise_map.mpr ((inOrder_sorted _).imp fun hab => noLater_iff.mpr ?_)
  exact Nat.add_le_add_left (Nat.mul_le_mul_left _ hab) _

/-! ## Runs in good order -/

/-- The names of members differ, calls in the air stand in the order in which they end, and each of
them is of a provider that has a breaker. -/
structure Sound (t : Traffic) : Prop where
  names : t.orchestrator.names.Nodup
  sorted : t.inAir.Pairwise (Flight.noLater · · = true)
  asked : ∀ f ∈ t.inAir, (t.orchestrator.breakers.find? f.landing.provider).isSome

/-- A provider whose call a fetch starts has been asked for it; the breakers of the others are as
they were. -/
theorem takeOff_find? (h : t.Sound) (q : Query) (p : String) :
    (t.takeOff q).orchestrator.breakers.find? p =
      if p ∈ (t.orchestrator.landings q t.clock t.metrics).map (·.provider) then
        (t.orchestrator.breakers.enter p t.clock.running).2.find? p
      else t.orchestrator.breakers.find? p :=
  startAll_find? t.orchestrator.deadline q t.orchestrator.members
    ⟨t.orchestrator.breakers, t.clock, t.metrics⟩ h.names p

theorem takeOff_started (h : t.Sound) (q : Query) :
    StartedAll t.orchestrator.deadline q (t.orchestrator.breakers.admits · t.clock.running)
      t.orchestrator.members (t.orchestrator.landings q t.clock t.metrics)
      (t.takeOff q).orchestrator.members :=
  t.orchestrator.fetchAll_started q t.clock t.metrics h.names

theorem of_sound {o : Orchestrator} (clock : Clock) (metrics : Metrics) (h : o.names.Nodup) :
    (of o clock metrics).Sound :=
  ⟨h, List.Pairwise.nil, fun _ hf => absurd hf List.not_mem_nil⟩

theorem Sound.landDue (h : t.Sound) (time : Instant) : (t.landDue time).Sound where
  names := by
    rw [Orchestrator.names, landDue_members]
    exact h.names
  sorted := by
    rw [landDue_inAir]
    exact h.sorted.filter _
  asked := by
    intro f hf
    rw [landDue_inAir] at hf
    exact foldl_land_asked _ (h.asked f (List.mem_filter.mp hf).1)

theorem Sound.takeOff (h : t.Sound) (q : Query) : (t.takeOff q).Sound where
  names := by
    have hnames := congrArg (List.map Adapter.name) (takeOff_started h q).adapters
    rw [List.map_map, List.map_map] at hnames
    exact (congrArg List.Nodup hnames).mpr h.names
  sorted := List.pairwise_merge noLater_sorts.trans noLater_sorts.total _ _ h.sorted
    (t.flights_sorted q)
  asked := by
    intro f hf
    rw [takeOff_find? h]
    split
    · rw [Breakers.find?_enter_self]
      rfl
    · rename_i hnot
      rcases List.mem_merge.mp hf with hf | hf
      · exact h.asked f hf
      · obtain ⟨l, hl, rfl⟩ := List.mem_map.mp hf
        exact absurd (List.mem_map_of_mem (mem_inOrder.mp hl)) hnot

/-- What the end of a call and the start of a fetch preserve holds after a run. -/
theorem run_preserves {P : Traffic → Prop}
    (hdue : ∀ u : Traffic, u.Sound → P u → ∀ time, P (u.landDue time))
    (htakeOff : ∀ u : Traffic, u.Sound → P u → ∀ q, P (u.takeOff q))
    (hall : ∀ u : Traffic, u.Sound → P u → P u.landAll) (hs : t.Sound) (h : P t)
    (asks : List Ask) : P (t.run asks) := by
  induction asks generalizing t with
  | nil => exact hall t hs h
  | cons a rest ih =>
    have hdue' := hs.landDue a.time
    exact ih (hdue'.takeOff a.query) (htakeOff _ hdue' (hdue t hs h a.time) a.query)

/-! ## What a run never takes back -/

theorem foldl_land_log (flights : List Flight) (t : Traffic) :
    t.log <:+ (flights.foldl land t).log :=
  List.foldlRecOn (motive := fun u => t.log <:+ u.log) flights land (List.suffix_refl _)
    fun _ h _ _ => h.trans (List.suffix_cons _ _)

theorem landDue_log (t : Traffic) (time : Instant) : t.log <:+ (t.landDue time).log :=
  foldl_land_log _ { t with inAir := t.inAir.filter (time < ·.due) }

theorem landAll_log (t : Traffic) : t.log <:+ t.landAll.log :=
  foldl_land_log _ { t with inAir := [] }

/-- The log only grows. -/
theorem run_log (hs : t.Sound) (asks : List Ask) : t.log <:+ (t.run asks).log :=
  run_preserves (P := fun u => t.log <:+ u.log) (fun u _ h time => h.trans (u.landDue_log time))
    (fun _ _ h _ => h.trans (List.suffix_cons _ _)) (fun u _ h => h.trans u.landAll_log) hs
    (List.suffix_refl _) asks

/-- No member forgets the calls that have been made to it. -/
theorem run_member (hs : t.Sound) (asks : List Ask) {m : Member}
    (hm : m ∈ t.orchestrator.members) : ∃ n ∈ (t.run asks).orchestrator.members,
      n.adapter = m.adapter ∧ m.calls <+: n.calls := by
  refine run_preserves (P := fun u => ∃ n ∈ u.orchestrator.members, n.adapter = m.adapter ∧
    m.calls <+: n.calls) (fun u _ h time => ?_) (fun u hu h q => ?_) (fun u _ h => ?_) hs
    ⟨m, hm, rfl, List.prefix_refl _⟩ asks
  · rw [landDue_members]
    exact h
  · obtain ⟨n, hn, hadapter, hcalls⟩ := h
    obtain ⟨n', hn', hadapter', hcalls'⟩ := (takeOff_started hu q).calls hn
    exact ⟨n', hn', hadapter'.trans hadapter, hcalls.trans hcalls'⟩
  · rw [landAll_members]
    exact h

/-- What every call preserves of a member holds after a run. -/
theorem run_forall_members {P : Member → Prop} (hs : t.Sound)
    (hserved : ∀ {deadline : Time.Span} {q : Query} {admitted : Bool} {m m' : Member}
      {l : Landing}, Served deadline q admitted m l m' → P m → P m')
    (hall : ∀ m ∈ t.orchestrator.members, P m) (asks : List Ask) :
    ∀ m ∈ (t.run asks).orchestrator.members, P m := by
  refine run_preserves (P := fun u => ∀ m ∈ u.orchestrator.members, P m) (fun u _ h time => ?_)
    (fun u hu h q => ?_) (fun u _ h => ?_) hs hall asks
  · rw [landDue_members]
    exact h
  · exact (takeOff_started hu q).forall_members hserved h
  · rw [landAll_members]
    exact h

/-! ## Runs without crashes -/

theorem Calm.foldl_land (h : t.Calm) (flights : List Flight) : (flights.foldl land t).Calm :=
  List.foldlRecOn flights land h fun u hu f _ => by
    refine List.forall_mem_cons.mpr ⟨fun landings hstarted => ?_, hu⟩
    cases hstarted

/-- Adapters that never crash do not crash in a run. -/
theorem Calm.run (hs : t.Sound) (h : t.Calm)
    (hcalm : ∀ m ∈ t.orchestrator.members, m.adapter.Calm) (asks : List Ask) :
    (t.run asks).Calm := by
  suffices (t.run asks).Calm ∧ ∀ m ∈ (t.run asks).orchestrator.members, m.adapter.Calm from this.1
  refine run_preserves (P := fun u => u.Calm ∧ ∀ m ∈ u.orchestrator.members, m.adapter.Calm)
    (fun u _ h time => ⟨?_, ?_⟩) (fun u hu h q => ⟨?_, ?_⟩) (fun u _ h => ⟨?_, ?_⟩) hs ⟨h, hcalm⟩
    asks
  · exact Calm.foldl_land (t := { u with inAir := u.inAir.filter (time < ·.due) }) h.1 _
  · rw [landDue_members]
    exact h.2
  · refine List.forall_mem_cons.mpr ⟨fun landings hstarted => ?_, h.1⟩
    cases hstarted
    exact (takeOff_started hu q).calm h.2
  · exact (takeOff_started hu q).forall_members (fun hserved hm => hserved.adapter ▸ hm) h.2
  · exact Calm.foldl_land (t := { u with inAir := [] }) h.1 _
  · rw [landAll_members]
    exact h.2

theorem Calm.of_suffix {t' : Traffic} (h : t'.Calm) (hlog : t.log <:+ t'.log) : t.Calm :=
  fun line hline => h line (hlog.subset hline)

theorem Calm.landings {q : Query} (h : (t.takeOff q).Calm) :
    ∀ l ∈ t.orchestrator.landings q t.clock t.metrics, l.outcome.isCrash = false :=
  h _ (.head _) _ rfl

end Traffic

/-! ## Fetches in turn -/

/-- Fetches one after another, each from what the one before has left. -/
def Orchestrator.inTurn (o : Orchestrator) (clock : Clock) (metrics : Metrics) :
    List Ask → Orchestrator
  | [] => o
  | a :: rest =>
    let r := o.fetchAll a.query (clock.moveTo a.time) metrics
    r.orchestrator.inTurn r.clock r.metrics rest

/-- None of the fetches crashes, and each starts after the one before is over. -/
def Orchestrator.Spaced (o : Orchestrator) (clock : Clock) (metrics : Metrics) :
    List Ask → Prop
  | [] => True
  | a :: rest =>
    let r := o.fetchAll a.query (clock.moveTo a.time) metrics
    clock.running ≤ a.time ∧ r.result ≠ .crashed ∧ r.orchestrator.Spaced r.clock r.metrics rest

/-- The breakers, the clock and the counters after all calls of a fetch. -/
def Orchestrator.landed (o : Orchestrator) (q : Query) (clock : Clock) (metrics : Metrics) :
    Field :=
  (inOrder (o.landings q clock metrics)).foldl (fun f l => land f l (clock.pass l.millis).running)
    (startAll o.deadline q o.members ⟨o.breakers, clock, metrics⟩).2.2

/-- A fetch without crashes waits for all its calls. -/
theorem Orchestrator.fetchAll_of_calm (o : Orchestrator) (q : Query) (clock : Clock)
    (metrics : Metrics) (hcalm : ∀ l ∈ o.landings q clock metrics, l.outcome.isCrash = false) :
    let r := o.fetchAll q clock metrics
    let landed := o.landed q clock metrics
    r.orchestrator.breakers = landed.breakers ∧
      r.clock = landed.clock.pass (elapsed (inOrder (o.landings q clock metrics))) ∧
      r.metrics = landed.metrics := by
  intro r landed
  have hall : beforeCrash (inOrder (o.landings q clock metrics)) =
      inOrder (o.landings q clock metrics) :=
    List.takeWhile_eq_self_iff.mpr fun l hl => by rw [hcalm l (mem_inOrder.mp hl)]; rfl
  have hlanded : (beforeCrash (inOrder (o.landings q clock metrics))).foldl
      (fun f l => land f l (clock.pass l.millis).running)
      (startAll o.deadline q o.members ⟨o.breakers, clock, metrics⟩).2.2 = landed := by
    rw [hall]
    rfl
  exact ⟨congrArg Field.breakers hlanded, congrArg (fun f : Field => f.clock.pass _) hlanded,
    congrArg Field.metrics hlanded⟩

theorem land_field (f f' : Field) (l : Landing) (now : Instant)
    (hbreakers : f'.breakers = f.breakers) (hmetrics : f'.metrics = f.metrics) :
    (Fetch.land f' l now).breakers = (Fetch.land f l now).breakers ∧
      (Fetch.land f' l now).metrics = (Fetch.land f l now).metrics ∧
      (Fetch.land f l now).clock = f.clock := by
  unfold Fetch.land
  rw [hbreakers, hmetrics]
  cases l.outcome with
  | crash => exact ⟨hbreakers, hmetrics, rfl⟩
  | _ => exact ⟨rfl, rfl, rfl⟩

/-- A fetch without crashes takes as long as the longest of its calls. -/
theorem le_elapsed {landings : List Landing}
    (hcalm : ∀ l ∈ landings, l.outcome.isCrash = false) {l : Landing} (hl : l ∈ landings) :
    l.millis ≤ elapsed (inOrder landings) := by
  have hnone : (inOrder landings).find? (·.outcome.isCrash) = none :=
    List.find?_eq_none.mpr fun k hk => by rw [hcalm k (mem_inOrder.mp hk)]; exact Bool.false_ne_true
  have hne : inOrder landings ≠ [] := List.ne_nil_of_mem (mem_inOrder.mpr hl)
  have helapsed : elapsed (inOrder landings) = ((inOrder landings).getLast hne).millis := by
    rw [elapsed, hnone, List.getLast?_eq_some_getLast hne]
    rfl
  rw [helapsed]
  exact (inOrder_sorted landings).rel_getLast_of_rel_getLast_getLast (mem_inOrder.mpr hl)
    (Nat.le_refl _)

namespace Traffic

variable {t : Traffic}

theorem foldl_land_field (clock : Clock) (landings : List Landing) (t : Traffic) (f : Field)
    (hbreakers : t.orchestrator.breakers = f.breakers) (hmetrics : t.metrics = f.metrics) :
    let flights := landings.map fun l => (⟨(clock.pass l.millis).running, l⟩ : Flight)
    let after := landings.foldl (fun f l => Fetch.land f l (clock.pass l.millis).running) f
    (flights.foldl land t).orchestrator = { t.orchestrator with breakers := after.breakers } ∧
      (flights.foldl land t).metrics = after.metrics ∧
      (flights.foldl land t).clock = t.clock ∧ after.clock = f.clock := by
  induction landings generalizing t f with
  | nil =>
    refine ⟨?_, hmetrics, rfl, rfl⟩
    simp only [List.map_nil, List.foldl_nil, ← hbreakers]
  | cons l rest ih =>
    obtain ⟨hb, hm, hc⟩ := land_field f ⟨t.orchestrator.breakers, t.clock, t.metrics⟩ l
      (clock.pass l.millis).running hbreakers hmetrics
    obtain ⟨ho, hm', hc', hc''⟩ := ih (t.land ⟨(clock.pass l.millis).running, l⟩)
      (Fetch.land f l (clock.pass l.millis).running) hb hm
    exact ⟨ho, hm', hc', hc''.trans hc⟩

/-- A run whose calls will have ended by the time of a clock, and will then have left so much. From
that time on its own clocks come to where the clock comes to. -/
structure Rests (t : Traffic) (o : Orchestrator) (clock : Clock) (metrics : Metrics) : Prop where
  ended : ∀ f ∈ t.inAir, f.due ≤ clock.running
  orchestrator : t.landAll.orchestrator = o
  clock : ∀ time, clock.running ≤ time → t.landAll.clock.moveTo time = clock.moveTo time
  metrics : t.landAll.metrics = metrics

theorem landDue_of_ended {time : Instant} (h : ∀ f ∈ t.inAir, f.due ≤ time) :
    t.landDue time = { t.landAll with clock := t.landAll.clock.moveTo time } := by
  have hall : t.inAir.filter (·.due ≤ time) = t.inAir :=
    List.filter_eq_self.mpr fun f hf => decide_eq_true (h f hf)
  have hnone : t.inAir.filter (time < ·.due) = [] :=
    List.filter_eq_nil_iff.mpr fun f hf => by simpa using h f hf
  rw [landDue, hall, hnone]
  rfl

theorem landAll_takeOff (q : Query) (hinAir : t.inAir = []) :
    let landed := t.orchestrator.landed q t.clock t.metrics
    let u := (t.takeOff q).landAll
    u.orchestrator = { (t.takeOff q).orchestrator with breakers := landed.breakers } ∧
      u.metrics = landed.metrics ∧ u.clock = landed.clock ∧
      landed.clock.running = t.clock.running := by
  intro landed u
  have hu : u = (t.flights q).foldl land { t.takeOff q with inAir := [] } := by
    show ((t.takeOff q).inAir).foldl land { t.takeOff q with inAir := [] } = _
    rw [takeOff_inAir, hinAir, List.nil_merge]
  obtain ⟨ho, hm, hc, hlanded⟩ := foldl_land_field t.clock
    (inOrder (t.orchestrator.landings q t.clock t.metrics)) { t.takeOff q with inAir := [] }
    (startAll t.orchestrator.deadline q t.orchestrator.members
      ⟨t.orchestrator.breakers, t.clock, t.metrics⟩).2.2 rfl rfl
  have hrunning := (startAll_field t.orchestrator.deadline q t.orchestrator.members
    ⟨t.orchestrator.breakers, t.clock, t.metrics⟩).2
  rw [hu]
  exact ⟨ho, hm, hc.trans hlanded.symm, (congrArg Clock.running hlanded).trans hrunning⟩

/-- A fetch that starts when no call is in the air leaves what it would leave alone. -/
theorem takeOff_rests (q : Query) (hinAir : t.inAir = [])
    (hresult : (t.orchestrator.fetchAll q t.clock t.metrics).result ≠ .crashed) :
    let r := t.orchestrator.fetchAll q t.clock t.metrics
    (t.takeOff q).Rests r.orchestrator r.clock r.metrics := by
  intro r
  have hcalm : ∀ l ∈ t.orchestrator.landings q t.clock t.metrics, l.outcome.isCrash = false := by
    intro l hl
    rw [← Bool.not_eq_true]
    exact fun hc => hresult (resultOf_crashed.mpr ⟨l, mem_inOrder.mpr hl, hc⟩)
  obtain ⟨hbreakers, hclock, hmetrics⟩ :=
    t.orchestrator.fetchAll_of_calm q t.clock t.metrics hcalm
  obtain ⟨horchestrator, hmetrics', hclock', hrunning⟩ := landAll_takeOff q hinAir
  refine ⟨fun f hf => ?_, ?_, ?_, ?_⟩
  · rw [takeOff_inAir, hinAir, List.nil_merge] at hf
    obtain ⟨l, hl, rfl⟩ := List.mem_map.mp hf
    have hlast := le_elapsed hcalm (mem_inOrder.mp hl)
    show t.clock.running + 1000000 * l.millis ≤ r.clock.running
    rw [hclock, Clock.pass, hrunning]
    exact Nat.add_le_add_left (Nat.mul_le_mul_left _ hlast) _
  · rw [horchestrator, ← hbreakers]
    rfl
  · intro time htime
    rw [hclock] at htime ⊢
    rw [hclock']
    exact (Clock.moveTo_moveTo (Nat.le_add_right _ _) htime).symm
  · rw [hmetrics', hmetrics]

theorem Rests.takeOff {o : Orchestrator} {clock : Clock} {metrics : Metrics}
    (h : t.Rests o clock metrics) (a : Ask) (htime : clock.running ≤ a.time)
    (hresult : (o.fetchAll a.query (clock.moveTo a.time) metrics).result ≠ .crashed) :
    let r := o.fetchAll a.query (clock.moveTo a.time) metrics
    ((t.landDue a.time).takeOff a.query).Rests r.orchestrator r.clock r.metrics := by
  obtain ⟨hended, rfl, hclock, rfl⟩ := h
  have hdue := landDue_of_ended fun f hf => (hended f hf).trans htime
  rw [← hclock a.time htime] at hresult ⊢
  rw [hdue]
  exact takeOff_rests a.query (foldl_land_inAir _ _) hresult

/-- A run of fetches that do not overlap is one fetch after another. -/
theorem run_in_turn (o : Orchestrator) (clock : Clock) (metrics : Metrics) (asks : List Ask)
    (h : o.Spaced clock metrics asks) :
    ((of o clock metrics).run asks).orchestrator = o.inTurn clock metrics asks := by
  have hrests : (of o clock metrics).Rests o clock metrics :=
    ⟨fun f hf => absurd hf List.not_mem_nil, rfl, fun _ _ => rfl, rfl⟩
  generalize of o clock metrics = t at hrests
  induction asks generalizing t o clock metrics with
  | nil => exact hrests.orchestrator
  | cons a rest ih =>
    obtain ⟨htime, hresult, hrest⟩ := h
    exact ih _ _ _ hrest _ (hrests.takeOff a htime hresult)

end Traffic

end FeedSearch.Fetch
