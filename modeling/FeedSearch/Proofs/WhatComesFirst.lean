-- The time that calls take. A call ends with its answer, at its deadline, or when the
-- caller gives up, whichever comes first; its breaker is told so at that time, and
-- the fetch is over when the last of its calls has ended.
import FeedSearch.Proofs.ProviderLanes
import Mathlib.Data.List.MinMax
import Mathlib.Order.Nat

namespace FeedSearch.Fetch

/-! ## One call -/

/-- The earlier of a time and one that may never come. -/
def atLatest (t : Nat) : Option Nat → Nat
  | none => t
  | some d => min d t

/-- When the first of answer, deadline and giving up comes. -/
def dueAfter (limit : Nat) (cancel : Cancel) (delay : Option Nat) : Nat :=
  atLatest (atLatest limit delay) cancel.time?

/-- How a call ends that is to be answered so: it is cancelled if the caller gives up before its
answer and its deadline or has done so before the call; else it ends with its answer if that comes
by the deadline, and is timed out if not. -/
def due (deadline : Time.Span) (limit : Nat) (cancel : Cancel) (reply : Reply) : Outcome :=
  if cancel.time?.any fun c => c = 0 || c < atLatest limit reply.delay then .failure .cancelled
  else if reply.delay.any (· ≤ limit) then .ofAnswer reply.answer
  else .failure (.timedOut deadline)

/-- The caller has given up before the call, or gives up at a time at which nothing else happens to
it. -/
def Cancel.Apart (cancel : Cancel) (limit : Nat) (delay : Option Nat) : Prop :=
  ∀ c, cancel = .after c → c ≠ 0 ∧ c ≠ limit ∧ delay ≠ some c

section OneCall

variable {deadline : Time.Span} {limit : Nat} {cancel : Cancel} {reply : Reply}

/-- What comes if no answer does: the deadline, or giving up before it. -/
theorem giveUp_eq (hlimit : deadline.ceilMillis = limit) (cancel : Cancel) :
    giveUp deadline cancel = (atLatest limit cancel.time?,
      if cancel.time?.any (· < limit) then .failure .cancelled
      else .failure (.timedOut deadline)) := by
  unfold giveUp
  simp only [hlimit]
  cases cancel.time? with
  | none => rfl
  | some c =>
    by_cases hc : c < limit
    · simp [atLatest, hc, hc.le]
    · simp [atLatest, hc, Nat.le_of_not_lt hc]

theorem guardCall_answered (hlimit : deadline.ceilMillis = limit) (hcancel : cancel ≠ .already)
    {d : Nat} (hdelay : reply.delay = some d) (hd : d ≤ limit)
    (hbefore : noLater d cancel.time? = true) :
    guardCall deadline cancel reply = (d, .ofAnswer reply.answer) := by
  unfold guardCall
  split
  · exact absurd rfl hcancel
  · simp [hdelay, hlimit, hd, hbefore]

theorem guardCall_unanswered (hlimit : deadline.ceilMillis = limit) (hcancel : cancel ≠ .already)
    (hlate : ∀ d, reply.delay = some d → ¬(d ≤ limit ∧ noLater d cancel.time? = true)) :
    guardCall deadline cancel reply = giveUp deadline cancel := by
  unfold guardCall
  split
  · exact absurd rfl hcancel
  · split
    · rename_i d hdelay
      rw [hlimit, if_neg (by simpa using hlate d hdelay)]
    · rfl

/-- A call ends when and how it is due. -/
theorem guardCall_eq (hlimit : deadline.ceilMillis = limit)
    (hapart : cancel.Apart limit reply.delay) : guardCall deadline cancel reply =
      (dueAfter limit cancel reply.delay, due deadline limit cancel reply) := by
  by_cases hcancel : cancel = .already
  · simp [hcancel, guardCall, dueAfter, due, Cancel.time?, atLatest]
  have htimes : ∀ c, cancel.time? = some c → c ≠ 0 ∧ c ≠ limit := by
    intro c hc
    cases cancel with
    | never => cases hc
    | already => exact absurd rfl hcancel
    | after c' =>
      obtain ⟨hpos, hne, _⟩ := hapart c' rfl
      exact Option.some.inj hc ▸ ⟨hpos, hne⟩
  unfold dueAfter due
  cases hdelay : reply.delay with
  | none =>
    rw [guardCall_unanswered hlimit hcancel (by simp [hdelay]), giveUp_eq hlimit]
    cases htime : cancel.time? with
    | none => simp [atLatest]
    | some c => by_cases hc : c < limit <;> simp [atLatest, (htimes c htime).1, hc]
  | some d =>
    by_cases hanswered : d ≤ limit ∧ noLater d cancel.time? = true
    · rw [guardCall_answered hlimit hcancel hdelay hanswered.1 hanswered.2]
      cases htime : cancel.time? with
      | none => simp [atLatest, hanswered.1]
      | some c =>
        have hbefore : d ≤ c := by simpa [noLater, htime] using hanswered.2
        have hpos := (htimes c htime).1
        simp [atLatest, hanswered.1, hbefore, hpos]
    · rw [guardCall_unanswered hlimit hcancel (by simpa [hdelay] using hanswered),
        giveUp_eq hlimit]
      cases htime : cancel.time? with
      | none =>
        have hlate : limit < d := by simpa [noLater, htime] using hanswered
        simp [atLatest, hlate, hlate.le]
      | some c =>
        obtain ⟨hpos, hne⟩ := htimes c htime
        rw [htime, noLater, decide_eq_true_iff, not_and, Nat.not_le] at hanswered
        rcases Nat.lt_or_gt_of_ne hne with hc | hc
        · have hearly : c < d := by omega
          simp [atLatest, hc, hearly, hc.le, hearly.le]
        · have hlate : limit < d := by omega
          simp [atLatest, hpos, hlate, hlate.le, hc.le, hc.not_gt]

/-- A call that was due counts for its breaker as a success if it has brought records, and else as a
failure. -/
theorem due_verdict (h : reply.answer ≠ .crash) : (due deadline limit cancel reply).verdict =
    some (due deadline limit cancel reply).isRecords := by
  unfold due
  split
  · rfl
  · split
    · cases ha : reply.answer with
      | crash => exact absurd ha h
      | records records => rfl
      | failure chain => rfl
    · rfl

theorem due_ne_crash (h : reply.answer ≠ .crash) :
    (due deadline limit cancel reply).isCrash = false := by
  have hverdict : (due deadline limit cancel reply).verdict =
      some (due deadline limit cancel reply).isRecords := due_verdict h
  cases hdue : due deadline limit cancel reply with
  | crash =>
    rw [hdue] at hverdict
    cases hverdict
  | records records => rfl
  | failure cause => rfl

end OneCall

theorem atLatest_le (t : Nat) (d : Option Nat) : atLatest t d ≤ t := by
  cases d with
  | none => exact Nat.le_refl t
  | some d => exact Nat.min_le_right d t

theorem dueAfter_le (limit : Nat) (cancel : Cancel) (delay : Option Nat) :
    dueAfter limit cancel delay ≤ limit :=
  Nat.le_trans (atLatest_le _ _) (atLatest_le _ _)

/-! ## The calls of a fetch -/

/-- What is known of a fetch before it starts: the deadline in milliseconds, and the replies that
its calls would get. No call would crash, and the caller gives up at no time at which an answer or
the deadline comes. -/
structure Foreseen (o : Orchestrator) (q : Query) (limit : Nat) (replies : Member → Reply) :
    Prop where
  names : o.names.Nodup
  deadline : o.deadline.toNanos = 1000000 * limit
  reply : ∀ m ∈ o.members, ∀ wall, m.adapter.reply (m.nextCall q wall) = replies m
  calm : ∀ m ∈ o.members, (replies m).answer ≠ .crash
  apart : ∀ m ∈ o.members, q.cancel.Apart limit (replies m).delay

/-- The end of a call that is due. -/
def dueLanding (o : Orchestrator) (q : Query) (limit : Nat) (replies : Member → Reply)
    (m : Member) : Landing :=
  ⟨m.adapter.name, dueAfter limit q.cancel (replies m).delay,
    due o.deadline limit q.cancel (replies m)⟩

theorem Served.of_rejected {deadline : Time.Span} {q : Query} {m m' : Member} {l : Landing}
    (h : Served deadline q false m l m') :
    l = ⟨m.adapter.name, 0, .failure .breakerOpen⟩ ∧ m' = m := by
  cases h with
  | rejected _ => exact ⟨rfl, rfl⟩
  | givenUp hadmitted _ => cases hadmitted
  | called hadmitted _ _ => cases hadmitted

theorem Served.called_once {deadline : Time.Span} {q : Query} {m m' : Member} {l : Landing}
    (h : Served deadline q true m l m') (hq : q.cancel ≠ .already) :
    ∃ wall, m' = { m with calls := m.calls ++ [m.nextCall q wall] } := by
  cases h with
  | rejected hadmitted => cases hadmitted
  | givenUp _ hgiven => exact absurd hgiven hq
  | called _ _ wall => exact ⟨wall, rfl⟩

/-- Nobody is called if the caller has given up. -/
theorem ServedAll.uncalled {deadline : Time.Span} {q : Query} {admits : String → Bool}
    {members members' : List Member} {landings : List Landing}
    (h : ServedAll deadline q admits members landings members') (hq : q.cancel = .already) :
    members' = members := by
  induction h with
  | nil => rfl
  | cons h _ ih =>
    rw [ih]
    cases h with
    | rejected _ => rfl
    | givenUp _ _ => rfl
    | called _ hne _ => exact absurd hq hne

namespace Foreseen

variable {o : Orchestrator} {q : Query} {limit : Nat} {replies : Member → Reply}

theorem ceilMillis (h : Foreseen o q limit replies) : o.deadline.ceilMillis = limit := by
  rw [Time.Span.ceilMillis, h.deadline]
  omega

/-- A call that is admitted ends as it is due. -/
theorem landing_eq (h : Foreseen o q limit replies) {m m' : Member} (hm : m ∈ o.members)
    {l : Landing} (hserved : Served o.deadline q true m l m') :
    l = dueLanding o q limit replies m := by
  cases hserved with
  | rejected hadmitted => cases hadmitted
  | givenUp _ hq => simp [dueLanding, dueAfter, due, hq, Cancel.time?, atLatest]
  | called _ _ wall =>
    rw [h.reply m hm wall, guardCall_eq h.ceilMillis (h.apart m hm)]
    rfl

theorem landings_calm (h : Foreseen o q limit replies) (clock : Clock) (metrics : Metrics) :
    ∀ l ∈ o.landings q clock metrics, l.outcome.isCrash = false := by
  intro l hl
  obtain ⟨m, hm, m', hserved⟩ := (o.fetchAll_started q clock metrics h.names).exists_served hl
  cases hadmitted : o.breakers.admits m.adapter.name clock.running with
  | true =>
    rw [hadmitted] at hserved
    rw [h.landing_eq hm hserved]
    exact due_ne_crash (h.calm m hm)
  | false =>
    rw [hadmitted] at hserved
    rw [hserved.of_rejected.1]
    rfl

theorem served (h : Foreseen o q limit replies) (clock : Clock) (metrics : Metrics) :
    ServedAll o.deadline q (o.breakers.admits · clock.running) o.members
      (o.landings q clock metrics) (o.fetchAll q clock metrics).orchestrator.members :=
  (o.fetchAll_started q clock metrics h.names).served (h.landings_calm clock metrics)

end Foreseen

/-! ## The breakers after it -/

/-- The breaker of a provider is told how its one call has ended, at that time. -/
theorem foldl_land_find?_self {landings : List Landing} (f : Field) (clock : Clock)
    (hnames : (landings.map (·.provider)).Nodup) {l : Landing} (hl : l ∈ landings) :
    (landings.foldl (fun f l => land f l (clock.pass l.millis).running) f).breakers.find?
        l.provider =
      (f.breakers.find? l.provider).map
        (·.told f.breakers.config l.outcome.verdict (clock.pass l.millis).running) := by
  induction landings generalizing f with
  | nil => cases hl
  | cons k rest ih =>
    rw [List.map_cons, List.nodup_cons] at hnames
    rw [List.foldl_cons]
    rcases List.mem_cons.mp hl with rfl | hl
    · rw [foldl_land_find?_ne _ _ _ hnames.1, land_breakers, find?_settleBreaker_self]
    · have hne : l.provider ≠ k.provider := fun he => hnames.1 (he ▸ List.mem_map_of_mem hl)
      rw [ih _ hnames.2 hl, land_breakers, find?_settleBreaker_ne _ _ _ hne, settleBreaker_config]

/-- In a fetch without crashes the breaker of every provider is asked for a call and told how it has
ended. -/
theorem Orchestrator.fetchAll_told (o : Orchestrator) {q : Query} {clock : Clock}
    {metrics : Metrics} (hnames : o.names.Nodup)
    (hcalm : ∀ l ∈ o.landings q clock metrics, l.outcome.isCrash = false) {l : Landing}
    (hl : l ∈ o.landings q clock metrics) :
    (o.fetchAll q clock metrics).orchestrator.breakers.find? l.provider =
      some ((((o.breakers.current l.provider).enter o.breakers.config clock.running).2).told
        o.breakers.config l.outcome.verdict (clock.pass l.millis).running) := by
  have hstarted := o.fetchAll_started q clock metrics hnames
  have hordered : ((inOrder (o.landings q clock metrics)).map (·.provider)).Nodup := by
    have hperm := (List.mergeSort_perm (o.landings q clock metrics)
      fun a b => a.millis ≤ b.millis).map (·.provider)
    exact hperm.nodup_iff.mpr (hstarted.providers.sublist.nodup hnames)
  have hasked : l.provider ∈ (o.landings q clock metrics).map (·.provider) :=
    List.mem_map_of_mem hl
  have hconfig := (startAll_field o.deadline q o.members ⟨o.breakers, clock, metrics⟩).1
  have hfound := (startAll_find? o.deadline q o.members ⟨o.breakers, clock, metrics⟩ hnames
    l.provider).trans ((if_pos hasked).trans (Breakers.find?_enter_self _ _ _))
  rw [(o.fetchAll_of_calm q clock metrics hcalm).1, landed,
    foldl_land_find?_self _ clock hordered (mem_inOrder.mpr hl), hfound, hconfig]
  rfl

/-! ## The time that it takes -/

/-- A fetch without crashes is over with the last of its calls. -/
theorem elapsed_eq {landings : List Landing}
    (hcalm : ∀ l ∈ landings, l.outcome.isCrash = false) :
    elapsed (inOrder landings) = (landings.map (·.millis)).foldr max 0 := by
  apply Nat.le_antisymm
  · have hnone : (inOrder landings).find? (·.outcome.isCrash) = none :=
      List.find?_eq_none.mpr fun k hk => by simp [hcalm k (mem_inOrder.mp hk)]
    rw [elapsed, hnone]
    cases hlast : (inOrder landings).getLast? with
    | none => exact Nat.zero_le _
    | some l =>
      have hl : l ∈ landings := mem_inOrder.mp (List.mem_of_getLast? hlast)
      exact List.le_max_of_le' 0 (List.mem_map_of_mem hl) (Nat.le_refl _)
  · refine List.max_le_of_forall_le (landings.map (·.millis)) _ fun n hn => ?_
    obtain ⟨l, hl, rfl⟩ := List.mem_map.mp hn
    exact le_elapsed hcalm hl

/-- A call that is rejected takes no time. -/
theorem ServedAll.longest {deadline : Time.Span} {q : Query} {admits : String → Bool}
    {members members' : List Member} {landings : List Landing} {millis : Member → Nat}
    (h : ServedAll deadline q admits members landings members')
    (hmillis : ∀ m ∈ members, ∀ l m', Served deadline q true m l m' → l.millis = millis m) :
    (landings.map (·.millis)).foldr max 0 =
      ((members.filter (admits ·.adapter.name)).map millis).foldr max 0 := by
  induction h with
  | nil => rfl
  | @cons m m' l rest rest' landings h hrest ih =>
    have hrest' := ih fun n hn => hmillis n (.tail _ hn)
    rw [List.map_cons, List.foldr_cons, hrest']
    cases hadmitted : admits m.adapter.name with
    | true =>
      rw [hadmitted] at h
      rw [List.filter_cons, if_pos hadmitted, List.map_cons, List.foldr_cons,
        hmillis m (.head _) l m' h]
    | false =>
      rw [hadmitted] at h
      rw [List.filter_cons, hadmitted, h.of_rejected.1]
      exact Nat.zero_max _

/-! ## The law -/

theorem fetchAll_running (o : Orchestrator) (q : Query) (clock : Clock) (metrics : Metrics) :
    (o.fetchAll q clock metrics).clock.running =
      clock.running + 1000000 * (o.fetchAll q clock metrics).millis := by
  have hstarted := (startAll_field o.deadline q o.members ⟨o.breakers, clock, metrics⟩).2
  have hlanded : ∀ (landings : List Landing) (f : Field),
      (landings.foldl (fun f l => land f l (clock.pass l.millis).running) f).clock = f.clock :=
    fun landings f => List.foldlRecOn (motive := fun g => g.clock = f.clock) landings _ rfl
      fun g hg l _ => (land_field g g l _ rfl rfl).2.2.trans hg
  show (Clock.pass _ _).running = _
  rw [Clock.pass, hlanded, hstarted]
  rfl

/-- In a fetch whose replies are known, every call that a breaker admits ends when and how it is
due, and nothing else ends in its place: cancelled, answered or timed out, whichever comes first.
The breaker is told at that time of one success or one failure. Who has given up before has nobody
called; else each of these providers is called once. The fetch takes as long as the longest of these
calls, and no longer than the deadline. -/
theorem a_call_ends_with_what_comes_first {o : Orchestrator} {q : Query} {limit : Nat}
    {replies : Member → Reply} (h : Foreseen o q limit replies) (clock : Clock)
    (metrics : Metrics) :
    let r := o.fetchAll q clock metrics
    let landings := o.landings q clock metrics
    let admitted := o.members.filter (o.breakers.admits ·.adapter.name clock.running)
    IsPartition landings r.result ∧
    (∀ m ∈ admitted,
      let l := dueLanding o q limit replies m
      landings.filter (·.provider == m.adapter.name) = [l] ∧
      r.orchestrator.breakers.find? m.adapter.name =
        some ((((o.breakers.current m.adapter.name).enter o.breakers.config clock.running).2).told
          o.breakers.config (some l.outcome.isRecords) (clock.running + 1000000 * l.millis)) ∧
      (q.cancel ≠ .already → ∃ wall,
        { m with calls := m.calls ++ [m.nextCall q wall] } ∈ r.orchestrator.members)) ∧
    (q.cancel = .already → r.orchestrator.members = o.members) ∧
    r.millis = (admitted.map fun m => dueAfter limit q.cancel (replies m).delay).foldr max 0 ∧
    r.millis ≤ limit ∧ r.clock.running = clock.running + 1000000 * r.millis := by
  intro r landings admitted
  have hserved := h.served clock metrics
  have hcalm := h.landings_calm clock metrics
  have hmillis : r.millis =
      (admitted.map fun m => dueAfter limit q.cancel (replies m).delay).foldr max 0 := by
    have hlongest := hserved.longest fun m hm l m' hl => by rw [h.landing_eq hm hl]
    exact (elapsed_eq hcalm).trans hlongest
  refine ⟨resultOf_partition (List.mergeSort_perm _ _) hcalm, ?_, hserved.uncalled, hmillis, ?_,
    fetchAll_running o q clock metrics⟩
  · intro m hm l
    obtain ⟨hmem, hadmitted⟩ := List.mem_filter.mp hm
    obtain ⟨k, m', hm', hk, honly⟩ := hserved.of_member h.names hmem
    rw [hadmitted] at hk
    have hkl : k = l := h.landing_eq hmem hk
    rw [hkl] at honly
    refine ⟨honly, ?_, fun hq => ?_⟩
    · have hl : l ∈ landings := (List.mem_filter.mp (honly ▸ List.mem_singleton_self l)).1
      have htold := o.fetchAll_told h.names hcalm hl
      have hverdict : l.outcome.verdict = some l.outcome.isRecords := due_verdict (h.calm m hmem)
      rw [hverdict] at htold
      exact htold
    · obtain ⟨wall, hcalled⟩ := hk.called_once hq
      exact ⟨wall, hcalled ▸ hm'⟩
  · rw [hmillis]
    refine List.max_le_of_forall_le (admitted.map _) _ fun n hn => ?_
    obtain ⟨m, _, rfl⟩ := List.mem_map.mp hn
    exact dueAfter_le _ _ _

/-! ## Four providers -/

/-- The breaker of one of the providers is open. -/
def oneOpen : Breakers where
  config := .standard
  entries := [("d", { state := .opened, failures := 5, successes := 0, lastFailure := some 0 })]

/-- A provider with a record after three milliseconds, one that fails after seven, one that hangs,
and one whose breaker is open. They have ten milliseconds. -/
def fourProviders : Orchestrator :=
  (Orchestrator.new oneOpen { seconds := 0, nanos := 10000000 }).registerAll
    [.scripted "a" [⟨3, .records [.unseen "a" "1" ""]⟩] false 0,
      .scripted "b" [⟨7, .fail ["down"]⟩] false 0, .scripted "c" [⟨0, .hang⟩] false 0,
      .scripted "d" [⟨20, .records []⟩] false 0]

/-- A question for anything whose caller waits so. -/
def askedUntil (cancel : Cancel) : Query := ⟨"", none, cancel⟩

/-- What the first call to a member would get. -/
def firstReply (m : Member) : Reply := m.adapter.reply (m.nextCall (askedUntil .never) ⟨0, 0⟩)

theorem fourProviders_foreseen {cancel : Cancel}
    (hcancel : ∀ c, cancel = .after c → c ∉ [0, 3, 7, 10, 20]) :
    Foreseen fourProviders (askedUntil cancel) 10 firstReply where
  names := by decide
  deadline := by decide
  reply m hm wall := by
    have hmembers : ∀ m ∈ fourProviders.members,
        m.adapter.reply (m.nextCall (askedUntil cancel) wall) = firstReply m :=
      List.forall_mem_cons.mpr ⟨rfl, List.forall_mem_cons.mpr ⟨rfl, List.forall_mem_cons.mpr ⟨rfl,
        List.forall_mem_singleton.mpr rfl⟩⟩⟩
    exact hmembers m hm
  calm := by
    have hanswers : ∀ m ∈ fourProviders.members, (firstReply m).answer ≠ .crash := by decide +kernel
    exact hanswers
  apart m hm c hc := by
    have hdelays : ∀ m ∈ fourProviders.members,
        ∀ d ∈ (firstReply m).delay, d ∈ [0, 3, 7, 10, 20] := by decide +kernel
    have hc' := hcancel c hc
    refine ⟨?_, ?_, fun hd => hc' (hdelays m hm c hd)⟩
    · rintro rfl
      exact hc' (by decide)
    · rintro rfl
      exact hc' (by decide)

/-- Who waits gets the failure, and a call timed out. Who gives up after five milliseconds gets both
calls cancelled. Nobody waits for the provider whose breaker is open. -/
theorem a_hanging_call_ends_when_its_caller_gives_up :
    let waits := askedUntil .never
    let leaves := askedUntil (.after 5)
    let waited := fourProviders.landings waits ⟨0, ⟨0, 0⟩⟩ .empty
    let left := fourProviders.landings leaves ⟨0, ⟨0, 0⟩⟩ .empty
    Foreseen fourProviders waits 10 firstReply ∧ Foreseen fourProviders leaves 10 firstReply ∧
      waited.filter (·.provider == "b") = [⟨"b", 7, .failure (.provider ["down"])⟩] ∧
      waited.filter (·.provider == "c") =
        [⟨"c", 10, .failure (.timedOut fourProviders.deadline)⟩] ∧
      (fourProviders.fetchAll waits ⟨0, ⟨0, 0⟩⟩ .empty).millis = 10 ∧
      left.filter (·.provider == "b") = [⟨"b", 5, .failure .cancelled⟩] ∧
      left.filter (·.provider == "c") = [⟨"c", 5, .failure .cancelled⟩] ∧
      (fourProviders.fetchAll leaves ⟨0, ⟨0, 0⟩⟩ .empty).millis = 5 := by
  intro waits leaves waited left
  have hwaits : Foreseen fourProviders waits 10 firstReply :=
    fourProviders_foreseen fun _ hc => Cancel.noConfusion hc
  have hleaves : Foreseen fourProviders leaves 10 firstReply :=
    fourProviders_foreseen fun c hc => by
      obtain rfl := Cancel.after.inj hc
      decide
  have hadmitted : ∀ m ∈ fourProviders.members.take 3,
      m ∈ fourProviders.members.filter (fourProviders.breakers.admits ·.adapter.name 0) := by
    intro m hm
    have hall : ∀ m ∈ fourProviders.members.take 3,
        fourProviders.breakers.admits m.adapter.name 0 = true := by decide +kernel
    exact List.mem_filter.mpr ⟨List.mem_of_mem_take hm, hall m hm⟩
  obtain ⟨_, hwaited, _, htime, _⟩ :=
    a_call_ends_with_what_comes_first hwaits ⟨0, ⟨0, 0⟩⟩ .empty
  obtain ⟨_, hleft, _, htime', _⟩ :=
    a_call_ends_with_what_comes_first hleaves ⟨0, ⟨0, 0⟩⟩ .empty
  refine ⟨hwaits, hleaves, ?_, ?_, ?_, ?_, ?_, ?_⟩
  · exact (hwaited _ (hadmitted _ (.tail _ (.head _)))).1
  · exact (hwaited _ (hadmitted _ (.tail _ (.tail _ (.head _))))).1
  · rw [htime]
    decide +kernel
  · exact (hleft _ (hadmitted _ (.tail _ (.head _)))).1
  · exact (hleft _ (hadmitted _ (.tail _ (.tail _ (.head _))))).1
  · rw [htime']
    decide +kernel

end FeedSearch.Fetch
