-- The calls of one fetch: which members an orchestrator has, which of them are
-- called, how their calls end, and what the start and the end of a call do to
-- the breakers.
import FeedSearch.Fetch.Orchestrator
import FeedSearch.Proofs.BreakersByName
import FeedSearch.Proofs.SortedLists

namespace FeedSearch.Fetch

/-! ## Registration -/

/-- The latest adapter of every name, in the order in which they were registered. -/
def latest : List Adapter → List Adapter
  | [] => []
  | a :: rest => if a.name ∈ rest.map (·.name) then latest rest else a :: latest rest

/-- Registers adapters, one after another. -/
def Orchestrator.registerAll (o : Orchestrator) (adapters : List Adapter) : Orchestrator :=
  adapters.foldl Orchestrator.register o

theorem latest_names_subset (adapters : List Adapter) :
    (latest adapters).map (·.name) ⊆ adapters.map (·.name) := by
  induction adapters with
  | nil => exact List.Subset.refl _
  | cons a rest ih =>
    unfold latest
    split
    · exact fun n hn => List.mem_cons_of_mem _ (ih hn)
    · exact List.cons_subset_cons _ ih

theorem latest_names_nodup (adapters : List Adapter) : ((latest adapters).map (·.name)).Nodup := by
  induction adapters with
  | nil => exact List.nodup_nil
  | cons a rest ih =>
    unfold latest
    split
    · exact ih
    · rename_i hnew
      exact List.nodup_cons.mpr ⟨fun hmem => hnew (latest_names_subset rest hmem), ih⟩

/-- The members whose names are not registered anew stay, and the latest adapters follow them. -/
theorem registerAll_members (o : Orchestrator) (adapters : List Adapter) :
    (o.registerAll adapters).members =
      o.members.filter (fun m => m.adapter.name ∉ adapters.map (·.name)) ++
        (latest adapters).map (⟨·, []⟩) := by
  unfold Orchestrator.registerAll
  induction adapters generalizing o with
  | nil =>
    have hall : o.members.filter (fun m => m.adapter.name ∉ [].map Adapter.name) = o.members :=
      List.filter_eq_self.mpr fun _ _ => by simp
    rw [hall]
    exact (List.append_nil _).symm
  | cons a rest ih =>
    have hkept : (o.members.filter (·.adapter.name != a.name)).filter
          (fun m => m.adapter.name ∉ rest.map (·.name)) =
        o.members.filter (fun m => m.adapter.name ∉ (a :: rest).map (·.name)) := by
      rw [List.filter_filter]
      refine List.filter_congr fun m _ => ?_
      rw [Bool.eq_iff_iff]
      simp [and_comm]
    have hmembers : (o.register a).members =
        o.members.filter (·.adapter.name != a.name) ++ [⟨a, []⟩] := rfl
    rw [List.foldl_cons, ih, hmembers, List.filter_append, hkept, List.append_assoc]
    by_cases hnew : a.name ∈ rest.map (·.name)
    · rw [latest, if_pos hnew, List.filter_cons_of_neg (by simpa using hnew)]
      rfl
    · rw [latest, if_neg hnew, List.filter_cons_of_pos (by simpa using hnew)]
      rfl

/-- No two members have one name. -/
theorem registerAll_names_nodup (bs : Breakers) (deadline : Time.Span) (adapters : List Adapter) :
    ((Orchestrator.new bs deadline).registerAll adapters).names.Nodup := by
  have hmembers : ((Orchestrator.new bs deadline).registerAll adapters).members =
      (latest adapters).map (⟨·, []⟩) := registerAll_members _ adapters
  rw [Orchestrator.names, hmembers, List.map_map]
  exact latest_names_nodup adapters

theorem registerAll_deadline (o : Orchestrator) (adapters : List Adapter) :
    (o.registerAll adapters).deadline = o.deadline := by
  unfold Orchestrator.registerAll
  induction adapters generalizing o with
  | nil => rfl
  | cons a rest ih => exact ih (o.register a)

theorem registerAll_breakers (o : Orchestrator) (adapters : List Adapter) :
    (o.registerAll adapters).breakers = o.breakers := by
  unfold Orchestrator.registerAll
  induction adapters generalizing o with
  | nil => rfl
  | cons a rest ih => exact ih (o.register a)

/-! ## The start of one call -/

variable {deadline : Time.Span} {q : Query}

/-- What becomes of a member in a fetch, given whether its breaker admits the call: how its call
ends, and the member with the calls that have been made to it. -/
inductive Served (deadline : Time.Span) (q : Query) (admitted : Bool) (m : Member) :
    Landing → Member → Prop where
  /-- The breaker rejects the call, which is not made. -/
  | rejected (h : admitted = false) :
      Served deadline q admitted m ⟨m.adapter.name, 0, .failure .breakerOpen⟩ m
  /-- The caller has given up before the call, which is not made. -/
  | givenUp (h : admitted = true) (hq : q.cancel = .already) :
      Served deadline q admitted m ⟨m.adapter.name, 0, .failure .cancelled⟩ m
  /-- One call is made. -/
  | called (h : admitted = true) (hq : q.cancel ≠ .already) (wall : Time.Moment) :
      Served deadline q admitted m
        ⟨m.adapter.name, (guardCall deadline q.cancel (m.adapter.reply (m.nextCall q wall))).1,
          (guardCall deadline q.cancel (m.adapter.reply (m.nextCall q wall))).2⟩
        { m with calls := m.calls ++ [m.nextCall q wall] }

theorem Served.provider {admitted : Bool} {m m' : Member} {l : Landing}
    (h : Served deadline q admitted m l m') : l.provider = m.adapter.name := by
  cases h <;> rfl

theorem Served.adapter {admitted : Bool} {m m' : Member} {l : Landing}
    (h : Served deadline q admitted m l m') : m'.adapter = m.adapter := by
  cases h <;> rfl

theorem start_served (deadline : Time.Span) (q : Query) (m : Member) (f : Field) :
    Served deadline q (f.breakers.admits m.adapter.name f.clock.running) m
      (start deadline q m f).1 (start deadline q m f).2.1 := by
  rcases he : f.breakers.enter m.adapter.name f.clock.running with ⟨admitted, breakers⟩
  cases admitted with
  | false =>
    simp only [start, Breakers.admits, he]
    exact .rejected rfl
  | true =>
    by_cases hq : q.cancel = .already
    · simp only [start, Breakers.admits, he, hq]
      exact .givenUp rfl hq
    · have hne : (q.cancel == .already) = false := by simp [hq]
      simp only [start, Breakers.admits, he, hne]
      exact .called rfl hq f.clock.wall

/-- A start changes the breaker of its own provider alone, by asking it, and takes no time. -/
theorem start_field (deadline : Time.Span) (q : Query) (m : Member) (f : Field) :
    (start deadline q m f).2.2.breakers =
        (f.breakers.enter m.adapter.name f.clock.running).2 ∧
      (start deadline q m f).2.2.clock.running = f.clock.running := by
  unfold start
  simp only
  split
  · exact ⟨rfl, rfl⟩
  · split
    · exact ⟨rfl, rfl⟩
    · exact ⟨rfl, rfl⟩

/-! ## The start of all calls -/

/-- What becomes of a row of members in a fetch: the ends of their calls, and the members after it.
A call that crashes may leave the rest of the row alone. -/
inductive StartedAll (deadline : Time.Span) (q : Query) (admits : String → Bool) :
    List Member → List Landing → List Member → Prop where
  | nil : StartedAll deadline q admits [] [] []
  | crashed {m m' : Member} {l : Landing} (rest : List Member)
      (h : Served deadline q (admits m.adapter.name) m l m') (hc : l.outcome.isCrash = true) :
      StartedAll deadline q admits (m :: rest) [l] (m' :: rest)
  | cons {m m' : Member} {l : Landing} {rest rest' : List Member} {landings : List Landing}
      (h : Served deadline q (admits m.adapter.name) m l m')
      (hrest : StartedAll deadline q admits rest landings rest') :
      StartedAll deadline q admits (m :: rest) (l :: landings) (m' :: rest')

/-- Members of different names are served as their breakers were before the fetch. -/
theorem startAll_started (deadline : Time.Span) (q : Query) (admits : String → Bool)
    (members : List Member) (f : Field) (hnames : (members.map (·.adapter.name)).Nodup)
    (hadmits : ∀ m ∈ members,
      f.breakers.admits m.adapter.name f.clock.running = admits m.adapter.name) :
    StartedAll deadline q admits members (startAll deadline q members f).1
      (startAll deadline q members f).2.1 := by
  induction members generalizing f with
  | nil => exact .nil
  | cons m rest ih =>
    obtain ⟨hbreakers, hrunning⟩ := start_field deadline q m f
    have hserved := start_served deadline q m f
    rcases hs : start deadline q m f with ⟨l, m', f'⟩
    rw [hs] at hbreakers hrunning hserved
    simp only at hbreakers hrunning
    simp only [List.map_cons, List.nodup_cons] at hnames
    simp only [List.mem_cons, forall_eq_or_imp] at hadmits
    rw [hadmits.1] at hserved
    simp only [startAll, hs]
    split
    · rename_i hc
      exact .crashed rest hserved (Bool.and_eq_true_iff.mp hc).2
    · refine .cons hserved (ih f' hnames.2 fun n hn => ?_)
      -- The names differ, so the question to the first breaker leaves the others as they are.
      have hne : n.adapter.name ≠ m.adapter.name :=
        fun he => hnames.1 (he ▸ List.mem_map_of_mem hn)
      rw [hbreakers, hrunning, Breakers.admits_enter_ne _ _ _ hne]
      exact hadmits.2 n hn

namespace StartedAll

variable {admits : String → Bool} {members members' : List Member} {landings : List Landing}

/-- Calls are started in the order of the members. -/
theorem providers (h : StartedAll deadline q admits members landings members') :
    landings.map (·.provider) <+: members.map (·.adapter.name) := by
  induction h with
  | nil => exact List.prefix_refl _
  | crashed rest h _ =>
    simp only [List.map_cons, List.map_nil, h.provider]
    exact List.cons_prefix_cons.mpr ⟨rfl, List.nil_prefix⟩
  | cons h _ ih =>
    simp only [List.map_cons, h.provider]
    exact List.cons_prefix_cons.mpr ⟨rfl, ih⟩

theorem adapters (h : StartedAll deadline q admits members landings members') :
    members'.map (·.adapter) = members.map (·.adapter) := by
  induction h with
  | nil => rfl
  | crashed rest h _ => simp only [List.map_cons, h.adapter]
  | cons h _ ih => simp only [List.map_cons, h.adapter, ih]

/-- Every call that has been started was served to a member. -/
theorem exists_served (h : StartedAll deadline q admits members landings members') {l : Landing}
    (hl : l ∈ landings) :
    ∃ m ∈ members, ∃ m', Served deadline q (admits m.adapter.name) m l m' := by
  induction h with
  | nil => exact absurd hl List.not_mem_nil
  | crashed rest h _ =>
    obtain rfl := List.mem_singleton.mp hl
    exact ⟨_, .head _, _, h⟩
  | cons h _ ih =>
    rcases List.mem_cons.mp hl with rfl | hl
    · exact ⟨_, .head _, _, h⟩
    · obtain ⟨m, hm, hserved⟩ := ih hl
      exact ⟨m, .tail _ hm, hserved⟩

end StartedAll

/-- A provider whose call has been started has been asked for it; the breakers of the others are as
they were. -/
theorem startAll_find? (deadline : Time.Span) (q : Query) (members : List Member) (f : Field)
    (hnames : (members.map (·.adapter.name)).Nodup) (p : String) :
    (startAll deadline q members f).2.2.breakers.find? p =
      if p ∈ (startAll deadline q members f).1.map (·.provider) then
        (f.breakers.enter p f.clock.running).2.find? p
      else f.breakers.find? p := by
  induction members generalizing f with
  | nil => rfl
  | cons m rest ih =>
    obtain ⟨hbreakers, hrunning⟩ := start_field deadline q m f
    have hprovider := (start_served deadline q m f).provider
    rcases hs : start deadline q m f with ⟨l, m', f'⟩
    rw [hs] at hbreakers hrunning hprovider
    simp only at hbreakers hrunning hprovider
    simp only [List.map_cons, List.nodup_cons] at hnames
    simp only [startAll, hs]
    split
    · simp only [List.map_cons, List.map_nil, List.mem_singleton, hprovider, hbreakers]
      by_cases hp : p = m.adapter.name
      · simp only [hp, if_true]
      · simp only [hp, if_false, Breakers.find?_enter_ne _ _ hp]
    · have hrest := startAll_started deadline q (f'.breakers.admits · f'.clock.running) rest f'
        hnames.2 fun _ _ => rfl
      simp only [List.map_cons, List.mem_cons, hprovider]
      rw [ih f' hnames.2]
      by_cases hp : p = m.adapter.name
      · subst hp
        have hnot := fun hmem => hnames.1 (hrest.providers.subset hmem)
        rw [if_neg hnot, if_pos (Or.inl rfl), hbreakers]
      · have hsame : f'.breakers.find? p = f.breakers.find? p := by
          rw [hbreakers, Breakers.find?_enter_ne _ _ hp]
        have hconfig : f'.breakers.config = f.breakers.config := by
          rw [hbreakers, Breakers.enter_config]
        simp only [hp, false_or, Breakers.find?_enter_self, Breakers.current, hsame, hconfig,
          hrunning]

/-! ## The ends of calls -/

@[simp] theorem land_breakers (f : Field) (l : Landing) (now : Instant) :
    (land f l now).breakers = settleBreaker f.breakers l now := by
  unfold land settleBreaker
  cases h : l.outcome <;> rfl

theorem find?_settleBreaker_ne (bs : Breakers) (l : Landing) (now : Instant) {other : String}
    (ho : other ≠ l.provider) : (settleBreaker bs l now).find? other = bs.find? other := by
  unfold settleBreaker
  split
  · exact Breakers.find?_modify_ne _ _ ho
  · rfl
  · exact Breakers.find?_modify_ne _ _ ho
  · rfl

/-- The ends of calls change the breakers of their own providers alone. -/
theorem foldl_land_find?_ne (landings : List Landing) (f : Field) (clock : Clock) {other : String}
    (ho : other ∉ landings.map (·.provider)) :
    (landings.foldl (fun f l => land f l (clock.pass l.millis).running) f).breakers.find? other =
      f.breakers.find? other := by
  induction landings generalizing f with
  | nil => rfl
  | cons l rest ih =>
    simp only [List.map_cons, List.mem_cons, not_or] at ho
    rw [List.foldl_cons, ih _ ho.2, land_breakers, find?_settleBreaker_ne _ _ _ ho.1]

/-! ## Calls that do not crash -/

/-- An adapter that never crashes. -/
def Adapter.Calm (a : Adapter) : Prop := ∀ call, (a.reply call).answer ≠ .crash

theorem giveUp_failure (deadline : Time.Span) (cancel : Cancel) :
    ∃ cause, (giveUp deadline cancel).2 = .failure cause := by
  unfold giveUp
  simp only
  split
  · split
    · exact ⟨_, rfl⟩
    · exact ⟨_, rfl⟩
  · exact ⟨_, rfl⟩

theorem guardCall_calm (deadline : Time.Span) (cancel : Cancel) {reply : Reply}
    (h : reply.answer ≠ .crash) : (guardCall deadline cancel reply).2.isCrash = false := by
  have hgive : (giveUp deadline cancel).2.isCrash = false := by
    obtain ⟨cause, hcause⟩ := giveUp_failure deadline cancel
    rw [hcause]
    rfl
  unfold guardCall
  split
  · rfl
  · split
    · split
      · cases ha : reply.answer with
        | crash => exact absurd ha h
        | _ => rfl
      · exact hgive
    · exact hgive

theorem Served.calm {admitted : Bool} {m m' : Member} {l : Landing}
    (h : Served deadline q admitted m l m') (hm : m.adapter.Calm) : l.outcome.isCrash = false := by
  cases h with
  | rejected _ => rfl
  | givenUp _ _ => rfl
  | called _ _ wall => exact guardCall_calm _ _ (hm _)

theorem StartedAll.calm {admits : String → Bool} {members members' : List Member}
    {landings : List Landing} (h : StartedAll deadline q admits members landings members')
    (hcalm : ∀ m ∈ members, m.adapter.Calm) : ∀ l ∈ landings, l.outcome.isCrash = false := by
  intro l hl
  obtain ⟨m, hm, _, hserved⟩ := h.exists_served hl
  exact hserved.calm (hcalm m hm)

/-! ## Whole fetches -/

namespace Orchestrator

/-- How the calls of a fetch end, in the order of their starts. -/
def landings (o : Orchestrator) (q : Query) (clock : Clock) (metrics : Metrics) : List Landing :=
  (startAll o.deadline q o.members ⟨o.breakers, clock, metrics⟩).1

theorem fetchAll_result (o : Orchestrator) (q : Query) (clock : Clock) (metrics : Metrics) :
    (o.fetchAll q clock metrics).result = resultOf (inOrder (o.landings q clock metrics)) := rfl

theorem fetchAll_breakers (o : Orchestrator) (q : Query) (clock : Clock) (metrics : Metrics) :
    (o.fetchAll q clock metrics).orchestrator.breakers =
      ((beforeCrash (inOrder (o.landings q clock metrics))).foldl
        (fun f l => land f l (clock.pass l.millis).running)
        (startAll o.deadline q o.members ⟨o.breakers, clock, metrics⟩).2.2).breakers := rfl

theorem fetchAll_started (o : Orchestrator) (q : Query) (clock : Clock) (metrics : Metrics)
    (hnames : o.names.Nodup) : StartedAll o.deadline q (o.breakers.admits · clock.running) o.members
      (o.landings q clock metrics) (o.fetchAll q clock metrics).orchestrator.members :=
  startAll_started _ _ _ _ ⟨o.breakers, clock, metrics⟩ hnames fun _ _ => rfl

/-- A provider whose call has not ended has at most been asked for it. -/
theorem fetchAll_find? (o : Orchestrator) (q : Query) (clock : Clock) (metrics : Metrics)
    (hnames : o.names.Nodup) {p : String}
    (hp : p ∉ (beforeCrash (inOrder (o.landings q clock metrics))).map (·.provider)) :
    (o.fetchAll q clock metrics).orchestrator.breakers.find? p =
      if p ∈ (o.landings q clock metrics).map (·.provider) then
        (o.breakers.enter p clock.running).2.find? p
      else o.breakers.find? p :=
  (foldl_land_find?_ne _ _ clock hp).trans (startAll_find? o.deadline q o.members _ hnames p)

end Orchestrator

theorem mem_inOrder {landings : List Landing} {l : Landing} :
    l ∈ inOrder landings ↔ l ∈ landings :=
  (List.mergeSort_perm landings _).mem_iff

theorem inOrder_sorted (landings : List Landing) :
    (inOrder landings).Pairwise (·.millis ≤ ·.millis) :=
  ((Sorts.of_key Landing.millis).sorted landings).imp of_decide_eq_true

/-- Landings that come in their order stay in it. -/
theorem inOrder_eq_self {landings : List Landing} (h : landings.Pairwise (·.millis ≤ ·.millis)) :
    inOrder landings = landings :=
  List.mergeSort_of_pairwise (h.imp decide_eq_true)

/-- Landings of which no two happen at one time have one order. -/
theorem inOrder_eq_of_perm {landings ordered : List Landing} (h : ordered.Perm landings)
    (hordered : ordered.Pairwise (·.millis < ·.millis)) : inOrder landings = ordered :=
  (Sorts.of_key Landing.millis).eq_of_perm h
    (hordered.imp fun hlt => decide_eq_false (Nat.not_le.mpr hlt))

theorem merge_result_ne_crashed (m : Merge) : m.result ≠ .crashed := by
  unfold Merge.result
  split
  · exact Result.noConfusion
  · exact Result.noConfusion

/-- A fetch crashes when one of its calls does. -/
theorem resultOf_crashed {ordered : List Landing} :
    resultOf ordered = .crashed ↔ ∃ l ∈ ordered, l.outcome.isCrash = true := by
  unfold resultOf
  rw [← List.any_eq_true]
  split
  · rename_i h
    exact ⟨fun _ => h, fun _ => rfl⟩
  · rename_i h
    exact ⟨fun he => absurd he (merge_result_ne_crashed _), fun he => absurd he h⟩

end FeedSearch.Fetch
