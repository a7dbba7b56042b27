-- Providers and the breakers of others. What the breaker of one provider goes
-- through in a run of fetches, which may overlap, is decided by when it is asked and
-- how the calls of its own provider end. So two runs in which one provider answers
-- alike have one history of its breaker, whatever else is registered.
import FeedSearch.Proofs.ProviderLanes
import Mathlib.Data.List.Forall2

namespace FeedSearch.Fetch

/-! ## Calls that end alike -/

/-- Two replies that come after the same time and count alike. -/
structure SameEnd (r r' : Reply) : Prop where
  delay : r'.delay = r.delay
  verdict : (Outcome.ofAnswer r'.answer).verdict = (Outcome.ofAnswer r.answer).verdict

/-- Two replies that count alike end alike under one guard. -/
theorem guardCall_alike {r r' : Reply} (h : SameEnd r r') (deadline : Time.Span)
    (cancel : Cancel) : (guardCall deadline cancel r').1 = (guardCall deadline cancel r).1 ∧
      (guardCall deadline cancel r').2.verdict = (guardCall deadline cancel r).2.verdict := by
  unfold guardCall
  rw [h.delay]
  split
  · exact ⟨rfl, rfl⟩
  · split
    · split
      · exact ⟨rfl, h.verdict⟩
      · exact ⟨rfl, rfl⟩
    · exact ⟨rfl, rfl⟩

/-- The calls of two members end alike if their breakers answer alike and so do their adapters. -/
theorem Served.alike {deadline : Time.Span} {q q' : Query} {admitted : Bool} {m m' n n' : Member}
    {l l' : Landing} (h : Served deadline q admitted m l n)
    (h' : Served deadline q' admitted m' l' n') (hcancel : q'.cancel = q.cancel)
    (hcount : m'.calls.length = m.calls.length)
    (hreplies : ∀ (i : Nat) c c', n.calls[i]? = some c → n'.calls[i]? = some c' →
      SameEnd (m.adapter.reply c) (m'.adapter.reply c')) :
    l'.millis = l.millis ∧ l'.outcome.verdict = l.outcome.verdict ∧
      n'.calls.length = n.calls.length := by
  cases h with
  | rejected h =>
    cases h' with
    | rejected _ => exact ⟨rfl, rfl, hcount⟩
    | givenUp h'' _ => rw [h] at h''; cases h''
    | called h'' _ _ => rw [h] at h''; cases h''
  | givenUp h hq =>
    cases h' with
    | rejected h'' => rw [h] at h''; cases h''
    | givenUp _ _ => exact ⟨rfl, rfl, hcount⟩
    | called _ hq' _ => exact absurd (hcancel.trans hq) hq'
  | called h hq wall =>
    cases h' with
    | rejected h'' => rw [h] at h''; cases h''
    | givenUp _ hq' => exact absurd (hcancel.symm.trans hq') hq
    | called _ _ wall' =>
      have hsame := hreplies m.calls.length (m.nextCall q wall) (m'.nextCall q' wall')
        List.getElem?_concat_length (hcount ▸ List.getElem?_concat_length)
      obtain ⟨hmillis, hverdict⟩ := guardCall_alike hsame deadline q.cancel
      rw [hcancel]
      exact ⟨hmillis, hverdict, by simp [hcount]⟩

/-! ## Two runs -/

/-- Two fetches that start at one time, and whose callers give up at one time. -/
structure Ask.Alike (ask ask' : Ask) : Prop where
  time : ask'.time = ask.time
  cancel : ask'.query.cancel = ask.query.cancel

namespace Traffic

variable {a a' : Adapter} {t t' : Traffic}

/-- As far as their calls go, the adapters of two runs answer the first call alike, and the second,
and so on. -/
def AnswerAlike (a a' : Adapter) (t t' : Traffic) : Prop :=
  ∀ m ∈ t.orchestrator.members, m.adapter = a →
    ∀ m' ∈ t'.orchestrator.members, m'.adapter = a' →
      ∀ (i : Nat) c c', m.calls[i]? = some c → m'.calls[i]? = some c' →
        SameEnd (a.reply c) (a'.reply c')

theorem getElem?_later {calls later : List Call} (h : calls <+: later) {i : Nat} {c : Call}
    (hc : calls[i]? = some c) : later[i]? = some c := by
  obtain ⟨hi, rfl⟩ := List.getElem?_eq_some_iff.mp hc
  exact List.prefix_iff_getElem?.mp h i hi

/-- Adapters that answer alike in the end have done so before. -/
theorem AnswerAlike.of_run (hs : t.Sound) (hs' : t'.Sound) {asks asks' : List Ask}
    (h : AnswerAlike a a' (t.run asks) (t'.run asks')) : AnswerAlike a a' t t' := by
  intro m hm hadapter m' hm' hadapter' i c c' hc hc'
  obtain ⟨n, hn, hn_adapter, hcalls⟩ := run_member hs asks hm
  obtain ⟨n', hn', hn'_adapter, hcalls'⟩ := run_member hs' asks' hm'
  exact h n hn (hn_adapter.trans hadapter) n' hn' (hn'_adapter.trans hadapter') i c c'
    (getElem?_later hcalls hc) (getElem?_later hcalls' hc')

/-- Two runs that are at one point for a provider: its lane is the same in both, and leads on from
one breaker, and its adapters have been called as often. -/
structure Abreast (first : Breaker) (a a' : Adapter) (t t' : Traffic) : Prop where
  sound : t.Sound
  sound' : t'.Sound
  config : t'.orchestrator.breakers.config = t.orchestrator.breakers.config
  deadline : t'.orchestrator.deadline = t.orchestrator.deadline
  lane : t'.lane a.name = t.lane a.name
  unbroken : (t.lane a.name).Unbroken first
  members : ∃ m ∈ t.orchestrator.members, ∃ m' ∈ t'.orchestrator.members,
    m.adapter = a ∧ m'.adapter = a' ∧ m'.calls.length = m.calls.length

namespace Abreast

variable {first : Breaker}

theorem landDue (h : Abreast first a a' t t') (time : Instant) :
    Abreast first a a' (t.landDue time) (t'.landDue time) where
  sound := h.sound.landDue time
  sound' := h.sound'.landDue time
  config := by rw [landDue_config, landDue_config, h.config]
  deadline := by rw [landDue_deadline, landDue_deadline, h.deadline]
  lane := by rw [landDue_lane h.sound, landDue_lane h.sound', h.config, h.lane]
  unbroken := by
    rw [landDue_lane h.sound]
    exact h.unbroken.landDue _ time
  members := by
    rw [landDue_members, landDue_members]
    exact h.members

theorem takeOff (h : Abreast first a a' t t') (hname : a'.name = a.name) {q q' : Query}
    (hcancel : q'.cancel = q.cancel) (hnow : t'.clock.running = t.clock.running)
    (hcalm : (t.takeOff q).Calm) (hcalm' : (t'.takeOff q').Calm)
    (hreplies : AnswerAlike a a' (t.takeOff q) (t'.takeOff q')) :
    Abreast first a a' (t.takeOff q) (t'.takeOff q') := by
  obtain ⟨m, hm, m', hm', rfl, rfl, hcount⟩ := h.members
  obtain ⟨l, n, hn, hserved, hlane⟩ := takeOff_lane h.sound hm q hcalm.landings
  obtain ⟨l', n', hn', hserved', hlane'⟩ := takeOff_lane h.sound' hm' q' hcalm'.landings
  -- the breakers are the same, so both calls are admitted, or none
  have hcurrent : t'.orchestrator.breakers.current m.adapter.name =
      t.orchestrator.breakers.current m.adapter.name := congrArg Lane.breaker h.lane
  rw [hname, Breakers.admits_eq, h.config, hnow, hcurrent, ← Breakers.admits_eq, h.deadline]
    at hserved'
  obtain ⟨hmillis, hverdict, hcount'⟩ := hserved.alike hserved' hcancel hcount
    (hreplies n hn hserved.adapter n' hn' hserved'.adapter)
  rw [hname, h.config, hnow, hmillis, hverdict, h.lane] at hlane'
  exact {
    sound := h.sound.takeOff q
    sound' := h.sound'.takeOff q'
    config := by rw [takeOff_config, takeOff_config, h.config]
    deadline := h.deadline
    lane := hlane'.trans hlane.symm
    unbroken := by
      rw [hlane]
      exact h.unbroken.takeOff _ _ _ _
    members := ⟨n, hn, n', hn', hserved.adapter, hserved'.adapter, hcount'⟩ }

/-- Two runs that are abreast, and go on with fetches at the same times, end in one lane. -/
theorem run (h : Abreast first a a' t t') (hname : a'.name = a.name) {asks asks' : List Ask}
    (hasks : List.Forall₂ Ask.Alike asks asks') (hcalm : (t.run asks).Calm)
    (hcalm' : (t'.run asks').Calm) (hreplies : AnswerAlike a a' (t.run asks) (t'.run asks')) :
    (t'.run asks').lane a.name = (t.run asks).lane a.name ∧
      ((t.run asks).lane a.name).Unbroken first := by
  induction hasks generalizing t t' with
  | nil =>
    have hlane := landAll_lane h.sound a.name
    have hlane' := landAll_lane h.sound' a.name
    rw [h.config, h.lane] at hlane'
    refine ⟨hlane'.trans hlane.symm, ?_⟩
    show (t.landAll.lane a.name).Unbroken first
    rw [hlane]
    exact h.unbroken.landAll _
  | @cons ask ask' rest rest' hask _ ih =>
    have hdue := h.landDue ask.time
    simp only [Traffic.run, hask.time] at hcalm hcalm' hreplies ⊢
    have hs := hdue.sound.takeOff ask.query
    have hs' := hdue.sound'.takeOff ask'.query
    exact ih (hdue.takeOff hname hask.cancel rfl (hcalm.of_suffix (run_log hs rest))
      (hcalm'.of_suffix (run_log hs' rest')) (hreplies.of_run hs hs')) hcalm hcalm' hreplies

end Abreast

theorem new_members (bs : Breakers) (deadline : Time.Span) (adapters : List Adapter) :
    ((Orchestrator.new bs deadline).registerAll adapters).members =
      (latest adapters).map (⟨·, []⟩) := registerAll_members _ adapters

theorem new_sound (bs : Breakers) (deadline : Time.Span) (adapters : List Adapter) (clock : Clock)
    (metrics : Metrics) :
    (of ((Orchestrator.new bs deadline).registerAll adapters) clock metrics).Sound := by
  exact of_sound clock metrics (registerAll_names_nodup bs deadline adapters)

/-- Runs of newly made orchestrators start abreast for a provider that both have registered. -/
theorem Abreast.start {adapters adapters' : List Adapter} {bs bs' : Breakers}
    (deadline : Time.Span) (clock clock' : Clock) (metrics metrics' : Metrics)
    (ha : a ∈ latest adapters) (ha' : a' ∈ latest adapters') (hconfig : bs'.config = bs.config)
    (hbreaker : bs'.current a.name = bs.current a.name) :
    Abreast (bs.current a.name) a a'
      (of ((Orchestrator.new bs deadline).registerAll adapters) clock metrics)
      (of ((Orchestrator.new bs' deadline).registerAll adapters') clock' metrics') := by
  have hlane : ∀ (bs : Breakers) (adapters : List Adapter) (clock : Clock) (metrics : Metrics),
      (of ((Orchestrator.new bs deadline).registerAll adapters) clock metrics).lane a.name =
        ⟨bs.current a.name, [], []⟩ := by
    intro bs adapters clock metrics
    show (⟨((Orchestrator.new bs deadline).registerAll adapters).breakers.current _, [], []⟩ :
      Lane) = _
    rw [registerAll_breakers]
    rfl
  refine ⟨new_sound .., new_sound .., ?_, ?_, ?_, ?_, ?_⟩
  · simp only [of, registerAll_breakers]
    exact hconfig
  · simp only [of, registerAll_deadline]
    rfl
  · rw [hlane, hlane, hbreaker]
  · rw [hlane]
    rfl
  · refine ⟨⟨a, []⟩, ?_, ⟨a', []⟩, ?_, rfl, rfl, rfl⟩
    · rw [of, new_members]
      exact List.mem_map_of_mem ha
    · rw [of, new_members]
      exact List.mem_map_of_mem ha'

end Traffic

/-! ## The law -/

/-- The breaker of a provider goes through one history in two runs without crashes, in which the
provider is registered and answers alike, whatever the other providers are and do: it is asked at
the same times, admits the same calls, is told of their ends at the same times, and is the same
before and after each of these events. The history leaves nothing out. -/
theorem a_breaker_feels_its_own_provider_alone (adapters adapters' : List Adapter)
    (bs bs' : Breakers) (deadline : Time.Span) (clock clock' : Clock) (metrics metrics' : Metrics)
    {asks asks' : List Ask} (hasks : List.Forall₂ Ask.Alike asks asks') {a a' : Adapter}
    (ha : a ∈ latest adapters) (ha' : a' ∈ latest adapters') (hname : a'.name = a.name)
    (hconfig : bs'.config = bs.config) (hbreaker : bs'.current a.name = bs.current a.name) :
    let o := (Orchestrator.new bs deadline).registerAll adapters
    let o' := (Orchestrator.new bs' deadline).registerAll adapters'
    let run := (Traffic.of o clock metrics).run asks
    let run' := (Traffic.of o' clock' metrics').run asks'
    run.Calm → run'.Calm → Traffic.AnswerAlike a a' run run' →
      run'.history a.name = run.history a.name ∧
      run'.orchestrator.breakers.current a.name = run.orchestrator.breakers.current a.name ∧
      Unbroken (bs.current a.name) (run.history a.name)
        (run.orchestrator.breakers.current a.name) := by
  intro o o' run run' hcalm hcalm' hreplies
  have hstart :=
    Traffic.Abreast.start deadline clock clock' metrics metrics' ha ha' hconfig hbreaker
  obtain ⟨hlane, hunbroken⟩ := hstart.run hname hasks hcalm hcalm' hreplies
  exact ⟨congrArg Lane.history hlane, congrArg Lane.breaker hlane, hunbroken⟩

/-! ## Providers that answer from a script -/

/-- The calls made to a member carry their numbers. -/
def Member.Numbered (m : Member) : Prop := ∀ (i : Nat) c, m.calls[i]? = some c → c.index = i

theorem Served.numbered {deadline : Time.Span} {q : Query} {admitted : Bool} {m m' : Member}
    {l : Landing} (h : Served deadline q admitted m l m') (hm : m.Numbered) : m'.Numbered := by
  cases h with
  | rejected _ => exact hm
  | givenUp _ _ => exact hm
  | called _ _ wall =>
    intro i c hc
    rcases Nat.lt_or_ge i m.calls.length with hi | hi
    · exact hm i c (by rwa [List.getElem?_append_left hi] at hc)
    · rw [List.getElem?_append_right hi, List.getElem?_singleton] at hc
      split at hc
      · cases hc
        exact (Nat.le_antisymm hi (Nat.sub_eq_zero_iff_le.mp ‹_›))
      · cases hc

/-- A script gives calls of one number the same end, whatever they ask for. -/
theorem scripted_sameEnd (name : String) (script : List Scene) (ignoreKind : Bool) (start : Nat)
    {c c' : Call} (h : c'.index = c.index) :
    SameEnd ((Adapter.scripted name script ignoreKind start).reply c)
      ((Adapter.scripted name script ignoreKind start).reply c') := by
  simp only [Adapter.scripted, h, Scene.reply]
  cases (sceneAt script (c.index - start)).behavior <;> exact ⟨rfl, rfl⟩

/-- A scripted provider answers alike in any two runs. -/
theorem scripted_answerAlike (name : String) (script : List Scene) (ignoreKind : Bool)
    (start : Nat) {t t' : Traffic} (h : ∀ m ∈ t.orchestrator.members, m.Numbered)
    (h' : ∀ m ∈ t'.orchestrator.members, m.Numbered) :
    Traffic.AnswerAlike (.scripted name script ignoreKind start)
      (.scripted name script ignoreKind start) t t' := by
  intro m hm _ m' hm' _ i c c' hc hc'
  have hindex : c'.index = c.index := (h' m' hm' i c' hc').trans (h m hm i c hc).symm
  exact scripted_sameEnd name script ignoreKind start hindex

/-- The calls of a new orchestrator carry their numbers. -/
theorem new_run_numbered (bs : Breakers) (deadline : Time.Span) (adapters : List Adapter)
    (clock : Clock) (metrics : Metrics) (asks : List Ask) :
    ∀ m ∈ ((Traffic.of ((Orchestrator.new bs deadline).registerAll adapters) clock metrics).run
      asks).orchestrator.members, m.Numbered := by
  refine Traffic.run_forall_members (Traffic.new_sound ..) (fun h => h.numbered) ?_ asks
  intro m hm
  rw [Traffic.of, Traffic.new_members] at hm
  obtain ⟨a, _, rfl⟩ := List.mem_map.mp hm
  exact fun i c hc => by simp at hc

/-! ## A provider alone and in a crowd -/

/-- A provider that always fails after five milliseconds. -/
def failing : Adapter := .scripted "a" [⟨5, .fail ["down"]⟩] false 0

/-- It stands between one that never answers and one that always has a record. -/
def crowd : List Adapter :=
  [.scripted "b" [⟨0, .hang⟩] false 0, failing,
    .scripted "c" [⟨5, .records [.unseen "c" "1" ""]⟩] false 0]

/-- Two fetches that overlap, one soon after, and one half a minute later. -/
def fourAsks : List Ask :=
  [0, 2000000, 10000000, 31000000000].map fun time => ⟨time, ⟨"rust", none, .never⟩⟩

/-- The run of these fetches; two failures open a breaker for half a minute. -/
def fourFetches (adapters : List Adapter) : Traffic :=
  (Traffic.of ((Orchestrator.new (.empty ⟨2, .ofSeconds 30⟩) (.ofSeconds 10)).registerAll adapters)
    ⟨0, ⟨0, 0⟩⟩ .empty).run fourAsks

theorem fourFetches_calm {adapters : List Adapter} (h : ∀ a ∈ latest adapters, a.Calm) :
    (fourFetches adapters).Calm := by
  refine Traffic.Calm.run (Traffic.new_sound ..) (fun _ hline => absurd hline List.not_mem_nil) ?_
    fourAsks
  intro m hm
  rw [Traffic.of, Traffic.new_members] at hm
  obtain ⟨a, ha, rfl⟩ := List.mem_map.mp hm
  exact h a ha

/-- The breaker opens at the second failure, rejects the third call, and is on trial with the
fourth. -/
theorem a_failing_provider_fails_alone_in_a_crowd :
    List.Forall₂ Ask.Alike fourAsks fourAsks ∧
      (failing ∈ latest [failing] ∧ failing ∈ latest crowd) ∧
      ((fourFetches [failing]).Calm ∧ (fourFetches crowd).Calm) ∧
      Traffic.AnswerAlike failing failing (fourFetches [failing]) (fourFetches crowd) ∧
      (fourFetches crowd).history "a" = (fourFetches [failing]).history "a" ∧
      (fourFetches crowd).orchestrator.breakers.current "a" =
        (fourFetches [failing]).orchestrator.breakers.current "a" ∧
      ((fourFetches [failing]).history "a").reverse.map
          (fun s => (s.time / 1000000, s.event, s.after.state, s.after.failures)) =
        [(0, .asked true, .closed, 0), (2, .asked true, .closed, 0), (5, .told false, .closed, 1),
          (7, .told false, .opened, 2), (10, .asked false, .opened, 2),
          (31000, .asked true, .halfOpen, 0), (31005, .told false, .opened, 1)] := by
  have hasks : List.Forall₂ Ask.Alike fourAsks fourAsks :=
    List.forall₂_same.mpr fun _ _ => ⟨rfl, rfl⟩
  have halone : latest [failing] = [failing] := by simp [latest]
  have hcrowd : latest crowd = crowd := by
    simp [latest, crowd, failing, Adapter.scripted]
  have hcalm : ∀ a ∈ crowd, a.Calm := by
    simp only [crowd, failing, List.mem_cons, List.not_mem_nil, or_false, forall_eq_or_imp,
      forall_eq]
    exact ⟨scripted_calm _ _ _ _ (by simp), scripted_calm _ _ _ _ (by simp),
      scripted_calm _ _ _ _ (by simp)⟩
  have hmem : failing ∈ latest [failing] := halone ▸ List.mem_singleton_self _
  have hmem' : failing ∈ latest crowd := hcrowd ▸ .tail _ (.head _)
  have hcalmAlone : (fourFetches [failing]).Calm :=
    fourFetches_calm (halone ▸ List.forall_mem_singleton.mpr (hcalm _ (.tail _ (.head _))))
  have hcalmCrowd : (fourFetches crowd).Calm := fourFetches_calm (hcrowd ▸ hcalm)
  have hreplies : Traffic.AnswerAlike failing failing (fourFetches [failing])
      (fourFetches crowd) :=
    scripted_answerAlike _ _ _ _ (new_run_numbered _ _ _ _ _ _) (new_run_numbered _ _ _ _ _ _)
  obtain ⟨hhistory, hbreaker, _⟩ := a_breaker_feels_its_own_provider_alone [failing] crowd
    (.empty ⟨2, .ofSeconds 30⟩) (.empty ⟨2, .ofSeconds 30⟩) (.ofSeconds 10) ⟨0, ⟨0, 0⟩⟩
    ⟨0, ⟨0, 0⟩⟩ .empty .empty hasks hmem hmem' rfl rfl rfl hcalmAlone hcalmCrowd hreplies
  refine ⟨hasks, ⟨hmem, hmem'⟩, ⟨hcalmAlone, hcalmCrowd⟩, hreplies, hhistory, hbreaker, ?_⟩
  -- its calls end in the order in which they start
  simp (disch := decide +kernel) only [fourFetches, fourAsks, List.map_cons, List.map_nil,
    Traffic.run, Traffic.takeOff_eq_behind]
  decide +kernel

end FeedSearch.Fetch
