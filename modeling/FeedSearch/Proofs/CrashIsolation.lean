-- A provider that crashes, next to one that fails instead: how far the other
-- providers and the breakers can tell the two apart.
import FeedSearch.Proofs.FetchLandings
import Mathlib.Data.List.Nodup
import Mathlib.Data.List.TakeWhile

namespace FeedSearch.Fetch

/-! ## Failures in place of crashes -/

def Answer.tamed (chain : List String) : Answer → Answer
  | .crash => .failure chain
  | answer => answer

def Reply.tamed (chain : List String) (r : Reply) : Reply :=
  { r with answer := r.answer.tamed chain }

/-- The adapter that fails where another one crashes. -/
def Adapter.tamed (chain : List String) (a : Adapter) : Adapter :=
  { a with reply := fun call => (a.reply call).tamed chain }

def Member.tamed (chain : List String) (m : Member) : Member :=
  { m with adapter := m.adapter.tamed chain }

/-- The orchestrator whose providers fail where those of another one crash. -/
def Orchestrator.tamed (chain : List String) (o : Orchestrator) : Orchestrator :=
  { o with members := o.members.map (·.tamed chain) }

def Outcome.tamed (chain : List String) : Outcome → Outcome
  | .crash => .failure (.provider chain)
  | outcome => outcome

def Landing.tamed (chain : List String) (l : Landing) : Landing :=
  { l with outcome := l.outcome.tamed chain }

theorem Adapter.tamed_calm (chain : List String) (a : Adapter) : (a.tamed chain).Calm := by
  intro call
  unfold Adapter.tamed Reply.tamed Answer.tamed
  cases h : (a.reply call).answer with
  | crash => simp [h]
  | _ => simp [h]

theorem Outcome.tamed_isRecords (chain : List String) (o : Outcome) :
    (o.tamed chain).isRecords = o.isRecords := by
  cases o <;> rfl

theorem Landing.tamed_of_calm (chain : List String) {l : Landing}
    (h : l.outcome.isCrash = false) : l.tamed chain = l := by
  rcases l with ⟨provider, millis, outcome⟩
  cases outcome with
  | crash => cases h
  | _ => rfl

theorem giveUp_tamed (chain : List String) (deadline : Time.Span) (cancel : Cancel) :
    (giveUp deadline cancel).2.tamed chain = (giveUp deadline cancel).2 := by
  obtain ⟨cause, hcause⟩ := giveUp_failure deadline cancel
  rw [hcause]
  rfl

theorem guardCall_tamed (chain : List String) (deadline : Time.Span) (cancel : Cancel)
    (reply : Reply) : guardCall deadline cancel (reply.tamed chain) =
      ((guardCall deadline cancel reply).1, (guardCall deadline cancel reply).2.tamed chain) := by
  rcases reply with ⟨delay, answer, parsed⟩
  have hanswer : Outcome.ofAnswer (answer.tamed chain) = (Outcome.ofAnswer answer).tamed chain := by
    cases answer <;> rfl
  unfold guardCall Reply.tamed
  simp only [hanswer]
  split
  · rfl
  · cases delay with
    | none => simp only [giveUp_tamed]
    | some d =>
      simp only
      split
      · rfl
      · simp only [giveUp_tamed]

/-- A start goes on in the same way whether a call fails or crashes. -/
theorem start_tamed (chain : List String) (deadline : Time.Span) (q : Query) (m : Member)
    (f : Field) : start deadline q (m.tamed chain) f =
      ((start deadline q m f).1.tamed chain, (start deadline q m f).2.1.tamed chain,
        (start deadline q m f).2.2) := by
  have hname : (m.tamed chain).adapter.name = m.adapter.name := rfl
  have hcall : ∀ wall, (m.tamed chain).nextCall q wall = m.nextCall q wall := fun _ => rfl
  have hreply : ∀ call, (m.tamed chain).adapter.reply call = (m.adapter.reply call).tamed chain :=
    fun _ => rfl
  unfold start
  simp only [hname, hcall, hreply, guardCall_tamed, Outcome.tamed_isRecords]
  rcases f.breakers.enter m.adapter.name f.clock.running with ⟨admitted, breakers⟩
  cases admitted with
  | false => rfl
  | true =>
    by_cases hq : q.cancel = .already
    · simp only [hq]
      rfl
    · have hne : (q.cancel == .already) = false := by simp [hq]
      simp only [hne]
      rfl

theorem startAll_tamed (chain : List String) (deadline : Time.Span) (q : Query)
    (members : List Member) (f : Field)
    (hcalm : ∀ l ∈ (startAll deadline q members f).1, l.outcome.isCrash = false) :
    startAll deadline q (members.map (·.tamed chain)) f =
      ((startAll deadline q members f).1,
        (startAll deadline q members f).2.1.map (·.tamed chain),
        (startAll deadline q members f).2.2) := by
  induction members generalizing f with
  | nil => rfl
  | cons m rest ih =>
    have hm := start_tamed chain deadline q m f
    rcases hs : start deadline q m f with ⟨l, m', f'⟩
    rw [hs] at hm
    simp only [startAll, hs] at hcalm ⊢
    -- The first call is among the landings in either branch, so neither branch stops here.
    have hl : l.outcome.isCrash = false := by
      split at hcalm
      · exact hcalm l (.head _)
      · exact hcalm l (.head _)
    simp only [hl, Bool.and_false, Bool.false_eq_true, if_false, List.mem_cons,
      forall_eq_or_imp] at hcalm ⊢
    simp only [List.map_cons, startAll, hm, Landing.tamed_of_calm chain hl, hl, Bool.and_false,
      Bool.false_eq_true, if_false, ih f' hcalm.2]

/-! ## Calls that crash -/

namespace Orchestrator

/-- No provider whose call has crashed is among those whose calls have ended before. -/
theorem crash_not_ended (o : Orchestrator) (q : Query) (clock : Clock) (metrics : Metrics)
    (hnames : o.names.Nodup) {l : Landing} (hl : l ∈ o.landings q clock metrics)
    (hc : l.outcome.isCrash = true) :
    l.provider ∉ (beforeCrash (inOrder (o.landings q clock metrics))).map (·.provider) := by
  have hproviders : ((o.landings q clock metrics).map (·.provider)).Nodup :=
    hnames.sublist (o.fetchAll_started q clock metrics hnames).providers.sublist
  intro hmem
  obtain ⟨k, hk, hprovider⟩ := List.mem_map.mp hmem
  have hcalm := List.mem_takeWhile_imp hk
  have hkl := mem_inOrder.mp (List.takeWhile_subset _ hk)
  rw [List.inj_on_of_nodup_map hproviders hkl hl hprovider, hc] at hcalm
  cases hcalm

/-- The breaker of a provider whose call has crashed stays as it was when it admitted the call. -/
theorem fetchAll_find?_crash (o : Orchestrator) (q : Query) (clock : Clock) (metrics : Metrics)
    (hnames : o.names.Nodup) {l : Landing} (hl : l ∈ o.landings q clock metrics)
    (hc : l.outcome.isCrash = true) :
    (o.fetchAll q clock metrics).orchestrator.breakers.find? l.provider =
      (o.breakers.enter l.provider clock.running).2.find? l.provider := by
  rw [fetchAll_find? o q clock metrics hnames (crash_not_ended o q clock metrics hnames hl hc),
    if_pos (List.mem_map_of_mem hl)]

theorem fetchAll_crashed (o : Orchestrator) (q : Query) (clock : Clock) (metrics : Metrics) :
    (o.fetchAll q clock metrics).result = .crashed ↔
      ∃ l ∈ o.landings q clock metrics, l.outcome.isCrash = true := by
  rw [fetchAll_result, resultOf_crashed]
  simp only [mem_inOrder]

/-- Without a crash nothing tells the two orchestrators apart. -/
theorem fetchAll_tamed (o : Orchestrator) (chain : List String) (q : Query) (clock : Clock)
    (metrics : Metrics) (hcalm : ∀ l ∈ o.landings q clock metrics, l.outcome.isCrash = false) :
    ((o.tamed chain).fetchAll q clock metrics).result = (o.fetchAll q clock metrics).result ∧
      ((o.tamed chain).fetchAll q clock metrics).orchestrator.breakers =
        (o.fetchAll q clock metrics).orchestrator.breakers := by
  have hstarts : startAll (o.tamed chain).deadline q (o.tamed chain).members
      ⟨(o.tamed chain).breakers, clock, metrics⟩ = _ :=
    startAll_tamed chain o.deadline q o.members ⟨o.breakers, clock, metrics⟩ hcalm
  have hlandings : (o.tamed chain).landings q clock metrics = o.landings q clock metrics := by
    rw [landings, hstarts]
    rfl
  refine ⟨by rw [fetchAll_result, fetchAll_result, hlandings], ?_⟩
  rw [fetchAll_breakers, fetchAll_breakers, hlandings, hstarts]

/-- A fetch whose providers fail instead does not crash. -/
theorem fetchAll_tamed_ne_crashed (o : Orchestrator) (chain : List String) (q : Query)
    (clock : Clock) (metrics : Metrics) (hnames : o.names.Nodup) :
    ((o.tamed chain).fetchAll q clock metrics).result ≠ .crashed := by
  have htamed : (o.tamed chain).names.Nodup := by
    simp only [names, Orchestrator.tamed, List.map_map]
    exact hnames
  have hcalm : ∀ m ∈ (o.tamed chain).members, m.adapter.Calm := by
    intro m hm
    obtain ⟨n, _, rfl⟩ := List.mem_map.mp hm
    exact n.adapter.tamed_calm chain
  rw [Ne, fetchAll_crashed]
  rintro ⟨l, hl, hc⟩
  rw [((o.tamed chain).fetchAll_started q clock metrics htamed).calm hcalm l hl] at hc
  cases hc

end Orchestrator

/-! ## Fetches in a row -/

/-- A fetch and the time at which it starts. -/
structure Round where
  query : Query
  clock : Clock
  metrics : Metrics

/-- The orchestrator after fetches in a row, however they end. -/
def Orchestrator.rounds (o : Orchestrator) : List Round → Orchestrator
  | [] => o
  | r :: rest => (o.fetchAll r.query r.clock r.metrics).orchestrator.rounds rest

/-- An adapter that crashes on every call before the deadline. -/
def Adapter.Crashing (deadline : Time.Span) (a : Adapter) : Prop :=
  ∀ call, ∃ d, (a.reply call).delay = some d ∧ d ≤ deadline.ceilMillis ∧
    (a.reply call).answer = .crash

theorem guardCall_crashing {deadline : Time.Span} {reply : Reply} {d : Nat}
    (hdelay : reply.delay = some d) (hd : d ≤ deadline.ceilMillis)
    (hcrash : reply.answer = .crash) : guardCall deadline .never reply = (d, .crash) := by
  simp [guardCall, hdelay, hd, hcrash, noLater, Cancel.time?, Outcome.ofAnswer]

theorem Served.crashing {deadline : Time.Span} {q : Query} {m m' : Member} {l : Landing}
    (h : Served deadline q true m l m') (hq : q.cancel = .never)
    (hm : m.adapter.Crashing deadline) : l.outcome.isCrash = true := by
  cases h with
  | rejected h => cases h
  | givenUp _ hc => rw [hq] at hc; cases hc
  | called _ _ wall =>
    obtain ⟨d, hdelay, hd, hcrash⟩ := hm (m.nextCall q wall)
    simp only [hq, guardCall_crashing hdelay hd hcrash]
    rfl

/-- A member that crashes and is admitted brings the fetch down, if no other member does so
first. -/
theorem StartedAll.crashing {deadline : Time.Span} {q : Query} {admits : String → Bool}
    {members members' : List Member} {landings : List Landing}
    (h : StartedAll deadline q admits members landings members') (hq : q.cancel = .never)
    {m : Member} (hm : m ∈ members) (hcrash : m.adapter.Crashing deadline)
    (hadmits : admits m.adapter.name = true) :
    ∃ l ∈ landings, l.outcome.isCrash = true := by
  induction h with
  | nil => exact absurd hm List.not_mem_nil
  | crashed rest _ hc => exact ⟨_, .head _, hc⟩
  | cons hserved _ ih =>
    rcases List.mem_cons.mp hm with rfl | hm
    · rw [hadmits] at hserved
      exact ⟨_, .head _, hserved.crashing hq hcrash⟩
    · obtain ⟨l, hl, hc⟩ := ih hm
      exact ⟨l, .tail _ hl, hc⟩

namespace Orchestrator

theorem names_eq (o : Orchestrator) : o.names = (o.members.map (·.adapter)).map (·.name) := by
  rw [List.map_map]
  rfl

/-- A fetch leaves the breaker of a provider that crashes as it is, if it is not open. -/
theorem fetchAll_crashing (o : Orchestrator) (r : Round) (hnames : o.names.Nodup) {a : Adapter}
    (ha : a ∈ o.members.map (·.adapter)) (hcrash : a.Crashing o.deadline)
    (hq : r.query.cancel = .never) (hopen : (o.breakers.current a.name).state ≠ .opened) :
    (o.fetchAll r.query r.clock r.metrics).result = .crashed ∧
      (o.fetchAll r.query r.clock r.metrics).orchestrator.breakers.current a.name =
        o.breakers.current a.name := by
  obtain ⟨m, hm, rfl⟩ := List.mem_map.mp ha
  have hadmits := Breakers.admits_of_ne_opened r.clock.running hopen
  have hstarted := o.fetchAll_started r.query r.clock r.metrics hnames
  refine ⟨?_, ?_⟩
  · rw [fetchAll_crashed]
    exact hstarted.crashing hq hm hcrash hadmits
  · have hended : m.adapter.name ∉
        (beforeCrash (inOrder (o.landings r.query r.clock r.metrics))).map (·.provider) := by
      intro hmem
      -- Whatever call of this provider has ended, it was served to this member, and crashed.
      obtain ⟨l, hl, hprovider⟩ := List.mem_map.mp hmem
      obtain ⟨n, hn, n', hserved⟩ :=
        hstarted.exists_served (mem_inOrder.mp (List.takeWhile_subset _ hl))
      rw [hserved.provider] at hprovider
      obtain rfl := List.inj_on_of_nodup_map hnames hn hm hprovider
      rw [hadmits] at hserved
      have hcalm := List.mem_takeWhile_imp hl
      rw [hserved.crashing hq hcrash] at hcalm
      cases hcalm
    rw [Breakers.current, fetchAll_find? o _ _ _ hnames hended]
    split
    · exact Breakers.current_enter_of_ne_opened _ hopen
    · rfl

theorem rounds_crashing (o : Orchestrator) (rounds : List Round) (hnames : o.names.Nodup)
    {a : Adapter} (ha : a ∈ o.members.map (·.adapter)) (hcrash : a.Crashing o.deadline)
    (hnever : ∀ r ∈ rounds, r.query.cancel = .never)
    (hopen : (o.breakers.current a.name).state ≠ .opened) :
    (o.rounds rounds).breakers.current a.name = o.breakers.current a.name ∧
      ∀ r : Round, r.query.cancel = .never →
        ((o.rounds rounds).fetchAll r.query r.clock r.metrics).result = .crashed := by
  induction rounds generalizing o with
  | nil => exact ⟨rfl, fun r hr => (fetchAll_crashing o r hnames ha hcrash hr hopen).1⟩
  | cons r rest ih =>
    simp only [List.mem_cons, forall_eq_or_imp] at hnever
    have hsame := (fetchAll_crashing o r hnames ha hcrash hnever.1 hopen).2
    have hadapters := (o.fetchAll_started r.query r.clock r.metrics hnames).adapters
    have hrest := ih (o.fetchAll r.query r.clock r.metrics).orchestrator
      (by rw [names_eq, hadapters, ← names_eq]; exact hnames) (by rw [hadapters]; exact ha) hcrash
      hnever.2 (by rw [hsame]; exact hopen)
    rw [hsame] at hrest
    exact hrest

end Orchestrator

/-! ## The law -/

/-- A fetch is as if its providers failed where they crash exactly when none of its calls crashes.
A call that crashes takes the fetch down, and its breaker stays as it was when it admitted the call:
a provider that crashes on every call takes down one fetch after another, however many there are, if
its breaker was not open before them. -/
theorem a_crash_takes_the_fetch_down_and_is_not_counted (adapters : List Adapter) (bs : Breakers)
    (deadline : Time.Span) (chain : List String) (q : Query) (clock : Clock) (metrics : Metrics) :
    let o := (Orchestrator.new bs deadline).registerAll adapters
    let run := o.fetchAll q clock metrics
    let calm := (o.tamed chain).fetchAll q clock metrics
    calm.result ≠ .crashed ∧
      (run.result = calm.result ∧ run.orchestrator.breakers = calm.orchestrator.breakers ↔
        ∀ l ∈ o.landings q clock metrics, l.outcome.isCrash = false) ∧
      (∀ l ∈ o.landings q clock metrics, l.outcome.isCrash = true →
        run.result = .crashed ∧ run.orchestrator.breakers.find? l.provider =
          (bs.enter l.provider clock.running).2.find? l.provider) ∧
      ∀ a ∈ latest adapters, a.Crashing deadline → (bs.current a.name).state ≠ .opened →
        ∀ rounds : List Round, (∀ r ∈ rounds, r.query.cancel = .never) →
          (o.rounds rounds).breakers.current a.name = bs.current a.name ∧
          ∀ r : Round, r.query.cancel = .never →
            ((o.rounds rounds).fetchAll r.query r.clock r.metrics).result = .crashed := by
  intro o run calm
  have hmembers : o.members = (latest adapters).map (⟨·, []⟩) := registerAll_members _ adapters
  have hadapters : o.members.map (·.adapter) = latest adapters := by
    rw [hmembers, List.map_map]
    exact List.map_id _
  have hnames : o.names.Nodup := by
    rw [Orchestrator.names_eq, hadapters]
    exact latest_names_nodup adapters
  have hbreakers : o.breakers = bs := registerAll_breakers _ adapters
  have hdeadline : o.deadline = deadline := registerAll_deadline _ adapters
  have hcalm : calm.result ≠ .crashed := o.fetchAll_tamed_ne_crashed chain q clock metrics hnames
  refine ⟨hcalm, ⟨fun hsame l hl => ?_, fun hl => ?_⟩, fun l hl hc => ?_, fun a ha => ?_⟩
  · rw [← Bool.not_eq_true]
    intro hc
    exact hcalm (hsame.1 ▸ (o.fetchAll_crashed q clock metrics).mpr ⟨l, hl, hc⟩)
  · obtain ⟨hresult, hstate⟩ := o.fetchAll_tamed chain q clock metrics hl
    exact ⟨hresult.symm, hstate.symm⟩
  · rw [← hbreakers]
    exact ⟨(o.fetchAll_crashed q clock metrics).mpr ⟨l, hl, hc⟩,
      o.fetchAll_find?_crash q clock metrics hnames hl hc⟩
  · rw [← hdeadline, ← hbreakers]
    intro hcrash hopen rounds hnever
    exact o.rounds_crashing rounds hnames (hadapters ▸ ha) hcrash hnever hopen

/-! ## A fetch that crashes -/

/-- A provider that crashes at once on every call. -/
def crasher : Adapter := .scripted "a" [⟨0, .crash⟩] false 0

/-- The provider that crashes, and one that has a record. -/
def besideCrasher : List Adapter :=
  [crasher, .scripted "b" [⟨0, .records [.unseen "b" "1" ""]⟩] false 0]

def crashBeside : Orchestrator :=
  (Orchestrator.new (.empty .standard) .longest).registerAll besideCrasher

/-- Had it failed, the other would have brought its record, and the failure would have been
counted. -/
theorem a_crash_hides_the_records_beside_it :
    (crashBeside.fetchAll ⟨"", none, .never⟩ ⟨0, ⟨0, 0⟩⟩ .empty).result = .crashed ∧
      ((crashBeside.fetchAll ⟨"", none, .never⟩ ⟨0, ⟨0, 0⟩⟩
        .empty).orchestrator.breakers.current "a").failures = 0 ∧
      ((crashBeside.tamed ["down"]).fetchAll ⟨"", none, .never⟩ ⟨0, ⟨0, 0⟩⟩ .empty).result =
        .records [.unseen "b" "1" ""] ∧
      (((crashBeside.tamed ["down"]).fetchAll ⟨"", none, .never⟩ ⟨0, ⟨0, 0⟩⟩
        .empty).orchestrator.breakers.current "a").failures = 1 := by
  have hlandings : (crashBeside.tamed ["down"]).landings ⟨"", none, .never⟩ ⟨0, ⟨0, 0⟩⟩ .empty =
      [⟨"a", 0, .failure (.provider ["down"])⟩, ⟨"b", 0, .records [.unseen "b" "1" ""]⟩] := by
    decide +kernel
  refine ⟨by decide +kernel, by decide +kernel, ?_, ?_⟩
  · rw [Orchestrator.fetchAll_result, hlandings, inOrder_eq_self (by decide)]
    rfl
  · rw [Orchestrator.fetchAll_breakers, hlandings, inOrder_eq_self (by decide)]
    decide +kernel

theorem crasher_crashing : crasher.Crashing .longest := by
  intro call
  have hscene : sceneAt [⟨0, .crash⟩] (call.index - 0) = ⟨0, .crash⟩ := by
    cases call.index <;> rfl
  refine ⟨0, ?_, Nat.zero_le _, ?_⟩
  · simp only [crasher, Adapter.scripted, hscene]
    rfl
  · simp only [crasher, Adapter.scripted, hscene]
    rfl

/-- A fetch at the start of the clock. -/
def firstRound : Round := ⟨⟨"", none, .never⟩, ⟨0, ⟨0, 0⟩⟩, .empty⟩

/-- Five failures in a row would have opened the breaker. -/
theorem a_sixth_crash_comes_like_the_first :
    crasher.Crashing .longest ∧ ((Breakers.empty .standard).current "a").state ≠ .opened ∧
      (crashBeside.rounds (List.replicate 5 firstRound)).breakers.current "a" = .fresh ∧
      ((crashBeside.rounds (List.replicate 5 firstRound)).fetchAll ⟨"", none, .never⟩
        ⟨0, ⟨0, 0⟩⟩ .empty).result = .crashed := by
  have hopen : ((Breakers.empty .standard).current "a").state ≠ .opened := by decide
  have hmem : crasher ∈ latest besideCrasher := by
    simp [latest, besideCrasher, crasher, Adapter.scripted]
  have hnever : ∀ r ∈ List.replicate 5 firstRound, r.query.cancel = .never := by
    intro r hr
    rw [(List.mem_replicate.mp hr).2]
    rfl
  have hrounds := (a_crash_takes_the_fetch_down_and_is_not_counted besideCrasher
    (.empty .standard) .longest ["down"] ⟨"", none, .never⟩ ⟨0, ⟨0, 0⟩⟩ .empty).2.2.2 crasher hmem
    crasher_crashing hopen (List.replicate 5 firstRound) hnever
  exact ⟨crasher_crashing, hopen, hrounds.1, hrounds.2 firstRound rfl⟩

end FeedSearch.Fetch
