-- The order in which the calls of a fetch end. It decides in which order the lists
-- of the providers are merged, and nothing else: each provider names itself in its
-- records, so the merged lists are shuffled forms of each other, and the store that
-- takes one of them differs in the ids of new rows alone.
import FeedSearch.Feed.Provider
import FeedSearch.Proofs.FetchPartition
import FeedSearch.Proofs.RenamedStores
import FeedSearch.Proofs.Results
import FeedSearch.Search.Coordinator

namespace FeedSearch

namespace Fetch

/-! ## Records that name their provider -/

/-- An adapter whose records all carry its own name. -/
def Adapter.NamesItself (a : Adapter) : Prop :=
  ∀ call records, (a.reply call).answer = .records records → ∀ r ∈ records, r.provider = a.name

theorem sceneAt_cases (script : List Scene) (index : Nat) :
    sceneAt script index ∈ script ∨ sceneAt script index = ⟨0, .hang⟩ := by
  unfold sceneAt
  rcases hget : script[index]? with _ | scene
  · rcases hlast : script.getLast? with _ | scene
    · exact Or.inr rfl
    · exact Or.inl (List.mem_of_getLast? hlast)
  · exact Or.inl (List.mem_of_getElem? hget)

theorem scripted_namesItself {name : String} {script : List Scene} (ignoreKind : Bool)
    (start : Nat) (h : ∀ scene ∈ script, ∀ records, scene.behavior = .records records →
      ∀ r ∈ records, r.provider = name) :
    (Adapter.scripted name script ignoreKind start).NamesItself := by
  intro call records hreply r hr
  simp only [Adapter.scripted, Scene.reply] at hreply ⊢
  rcases sceneAt_cases script (call.index - start) with hscene | hscene
  · cases hb : (sceneAt script (call.index - start)).behavior with
    | records all =>
      rw [hb] at hreply
      obtain rfl := Answer.records.inj hreply
      refine h _ hscene all hb r ?_
      split at hr
      · exact hr
      · exact (List.mem_filter.mp hr).1
    | fail chain => rw [hb] at hreply; cases hreply
    | crash => rw [hb] at hreply; cases hreply
    | hang =>
      rw [hb] at hreply
      obtain rfl := Answer.records.inj hreply
      cases hr
  · rw [hscene] at hreply
    obtain rfl := Answer.records.inj hreply
    cases hr

/-- The guard hands on the records of the answer, or none. -/
theorem guardCall_records {deadline : Time.Span} {cancel : Cancel} {reply : Reply}
    {records : List Record} (h : (guardCall deadline cancel reply).2 = .records records) :
    reply.answer = .records records := by
  have hgive : (giveUp deadline cancel).2 ≠ .records records := by
    obtain ⟨cause, hcause⟩ := giveUp_failure deadline cancel
    rw [hcause]
    exact Outcome.noConfusion
  unfold guardCall at h
  split at h
  · cases h
  · split at h
    · split at h
      · cases ha : reply.answer with
        | records rs =>
          rw [ha] at h
          exact congrArg Answer.records (Outcome.records.inj h)
        | failure chain => rw [ha] at h; cases h
        | crash => rw [ha] at h; cases h
      · exact absurd h hgive
    · exact absurd h hgive

variable {deadline : Time.Span} {q : Query}

/-- What a call has brought is an answer of the adapter that was called. -/
theorem Served.exists_answer {admitted : Bool} {m m' : Member} {l : Landing} {records : List Record}
    (h : Served deadline q admitted m l m') (hl : l.outcome = .records records) :
    ∃ call, (m.adapter.reply call).answer = .records records := by
  cases h with
  | rejected _ => cases hl
  | givenUp _ _ => cases hl
  | called _ _ wall => exact ⟨_, guardCall_records hl⟩

/-- What is brought for a member names it. -/
theorem Served.namesItself {admitted : Bool} {m m' : Member} {l : Landing}
    (h : Served deadline q admitted m l m') (hm : m.adapter.NamesItself) :
    ∀ r ∈ l.records?.getD [], r.provider = l.provider := by
  intro r hr
  unfold Landing.records? at hr
  split at hr
  · rename_i records hl
    obtain ⟨call, hcall⟩ := h.exists_answer hl
    rw [h.provider]
    exact hm call records hcall r hr
  · cases hr

/-! ## What each provider brings -/

/-- The records that a provider has brought. -/
def broughtBy (p : String) (landings : List Landing) : List Record :=
  (successes (landings.filter (·.provider == p))).flatten

theorem successes_cons (l : Landing) (rest : List Landing) :
    (successes (l :: rest)).flatten = l.records?.getD [] ++ (successes rest).flatten := by
  unfold successes
  cases h : l.records? with
  | none => rw [List.filterMap_cons_none h]; rfl
  | some records => rw [List.filterMap_cons_some h]; rfl

theorem broughtBy_cons (p : String) (l : Landing) (rest : List Landing) : broughtBy p (l :: rest) =
    (if l.provider == p then l.records?.getD [] else []) ++ broughtBy p rest := by
  unfold broughtBy
  rw [List.filter_cons]
  split
  · exact successes_cons l _
  · rfl

/-- In a merged list, the records of a provider are those that it has brought. -/
theorem filter_successes {landings : List Landing}
    (hnamed : ∀ l ∈ landings, ∀ r ∈ l.records?.getD [], r.provider = l.provider) (p : String) :
    (successes landings).flatten.filter (·.provider == p) = broughtBy p landings := by
  induction landings with
  | nil => rfl
  | cons l rest ih =>
    have hfirst : (l.records?.getD []).filter (·.provider == p) =
        if l.provider == p then l.records?.getD [] else [] := by
      split
      · rename_i hl
        exact List.filter_eq_self.mpr fun r hr => by rw [hnamed l (.head _) r hr, hl]
      · rename_i hl
        exact List.filter_eq_nil_iff.mpr fun r hr => by rw [hnamed l (.head _) r hr]; exact hl
    rw [successes_cons, List.filter_append, hfirst, ih fun l' hl' => hnamed l' (.tail l hl'),
      broughtBy_cons]

/-- Of a provider whose name comes once, all orders of the ends bring the same. -/
theorem broughtBy_perm {landings ordered : List Landing} (hp : ordered.Perm landings)
    (hnames : (landings.map (·.provider)).Nodup) (p : String) :
    broughtBy p ordered = broughtBy p landings := by
  have hsame : ∀ l ∈ landings.filter (·.provider == p), l.provider = p := fun l hl =>
    eq_of_beq (List.mem_filter.mp hl).2
  have hfew : (landings.filter (·.provider == p)).length ≤ 1 := by
    have hnodup : ((landings.filter (·.provider == p)).map (·.provider)).Nodup :=
      hnames.sublist (List.filter_sublist.map _)
    rw [List.map_congr_left hsame, List.map_const'] at hnodup
    exact List.nodup_replicate.mp hnodup
  have hone : ordered.filter (·.provider == p) = landings.filter (·.provider == p) := by
    have hfilter := hp.filter (·.provider == p)
    generalize landings.filter (·.provider == p) = only at hfilter hfew
    match only with
    | [] => exact hfilter.eq_nil
    | [l] => exact List.perm_singleton.mp hfilter
    | _ :: _ :: _ => simp at hfew
  rw [broughtBy, hone, broughtBy]

namespace Orchestrator

variable {o : Orchestrator} {clock : Clock} {metrics : Metrics}

theorem fetchAll_records {fetched : List Record}
    (h : (o.fetchAll q clock metrics).result = .records fetched) :
    fetched = (successes (inOrder (o.landings q clock metrics))).flatten :=
  resultOf_records h

/-- A fetch gives of every provider what its call has brought. -/
theorem fetchAll_filter (hnames : o.names.Nodup) (hown : ∀ m ∈ o.members, m.adapter.NamesItself)
    {fetched : List Record} (h : (o.fetchAll q clock metrics).result = .records fetched)
    (p : String) :
    fetched.filter (·.provider == p) = broughtBy p (o.landings q clock metrics) := by
  have hstarted := o.fetchAll_started q clock metrics hnames
  have hperm : (inOrder (o.landings q clock metrics)).Perm (o.landings q clock metrics) :=
    List.mergeSort_perm _ _
  have hproviders : ((o.landings q clock metrics).map (·.provider)).Nodup :=
    hnames.sublist hstarted.providers.sublist
  have hnamed : ∀ l ∈ inOrder (o.landings q clock metrics),
      ∀ r ∈ l.records?.getD [], r.provider = l.provider := by
    intro l hl
    obtain ⟨m, hm, _, hserved⟩ := hstarted.exists_served (mem_inOrder.mp hl)
    exact hserved.namesItself (hown m hm)
  rw [fetchAll_records h, filter_successes hnamed, broughtBy_perm hperm hproviders]

/-- Whatever a fetch brings, the adapter of a member has answered. -/
theorem exists_answer_of_mem (hnames : o.names.Nodup) {fetched : List Record}
    (h : (o.fetchAll q clock metrics).result = .records fetched) {r : Record} (hr : r ∈ fetched) :
    ∃ m ∈ o.members, ∃ call records,
      (m.adapter.reply call).answer = .records records ∧ r ∈ records := by
  rw [fetchAll_records h] at hr
  obtain ⟨records, hrecords, hr⟩ := List.mem_flatten.mp hr
  obtain ⟨l, hl, hbrought⟩ := List.mem_filterMap.mp hrecords
  obtain ⟨m, hm, _, hserved⟩ :=
    (o.fetchAll_started q clock metrics hnames).exists_served (mem_inOrder.mp hl)
  unfold Landing.records? at hbrought
  split at hbrought
  · rename_i brought houtcome
    obtain rfl := Option.some.inj hbrought
    obtain ⟨call, hcall⟩ := hserved.exists_answer houtcome
    exact ⟨m, hm, call, brought, hcall, hr⟩
  · cases hbrought

end Orchestrator

end Fetch

/-! ## Feeds -/

namespace Feed

open Fetch

/-- The records of a payload come from its items. -/
theorem exists_items {format : Format} {provider body : String} {kind : Option Kind}
    {fetchedAt : Time.Moment} {all : List Record}
    (h : Feed.records format provider body kind fetchedAt = .ok all) :
    ∃ read, items format body = .ok read ∧ recordsOf provider kind fetchedAt read = all :=
  map_eq_ok h

theorem recordsOf_provider {provider : String} {kind : Option Kind} {fetchedAt : Time.Moment}
    {items : List Item} : ∀ r ∈ recordsOf provider kind fetchedAt items, r.provider = provider := by
  intro r hr
  obtain ⟨item, _, rfl⟩ := List.mem_map.mp hr
  rfl

namespace Provider

theorem fetch_records {p : Provider} {s : Surroundings} {c : Call} {cancel : Cancel}
    {all : List Record} (h : (p.fetch s c cancel).2 = .ok all) :
    ∃ body fetchedAt, Feed.records p.format p.name body c.kind fetchedAt = .ok all := by
  unfold fetch at h
  split at h
  · cases h
  · rename_i millis body _
    exact ⟨body, (c.later millis).wall, mapError_eq_ok h⟩

/-- A call waits and then loads, and a wait that is cut short brings no records. -/
theorem call_records {p : Provider} {s : Surroundings} {c : Call} {cancel : Cancel}
    {all : List Record} (h : (p.call s c cancel).2 = .ok all) :
    ∃ body fetchedAt, Feed.records p.format p.name body c.kind fetchedAt = .ok all := by
  simp only [call] at h
  split at h
  · cases h
  · exact fetch_records (c := c.later (p.wait s c)) h

/-- The adapter of a feed answers with the records of a payload. -/
theorem adapter_records {p : Provider} {s : Surroundings} {call : Call} {all : List Record}
    (h : ((p.adapter s).reply call).answer = .records all) :
    ∃ body fetchedAt, Feed.records p.format p.name body call.kind fetchedAt = .ok all := by
  have hcalled : (p.call s call .never).2 = .ok all := by
    simp only [adapter, answer] at h
    split at h
    · rename_i found hfound
      rw [hfound, Answer.records.inj h]
    · split at h <;> cases h
  exact call_records hcalled

/-- The adapter of a feed writes the name of its provider into every record. -/
theorem adapter_namesItself (p : Provider) (s : Surroundings) : (p.adapter s).NamesItself := by
  intro call all hreply
  obtain ⟨body, fetchedAt, hbody⟩ := adapter_records hreply
  obtain ⟨read, _, rfl⟩ := exists_items hbody
  exact recordsOf_provider

end Provider

end Feed

/-! ## The law -/

namespace Search

open Fetch

/-- Scoring gives new scores alone. -/
theorem Coordinator.score_shuffled (c : Coordinator) {xs ys : List Record}
    (h : Store.SameByProvider xs ys) : Store.SameByProvider (c.score xs).1 (c.score ys).1 :=
  h.map fun _ => rfl

/-- Two fetches in which every provider brings the same records, in whatever order their calls end,
give lists that one coordinator scores at one moment. The store refuses both of them or takes both,
and then what it holds is the same but for the ids of new rows: every search finds as many hits, and
the same hits up to these ids and to the order of those that tie. -/
theorem the_order_of_ends_decides_new_ids_alone (batches : List (List Record)) (c : Coordinator)
    {o o' : Orchestrator} (hnames : o.names.Nodup) (hnames' : o'.names.Nodup)
    (hown : ∀ m ∈ o.members, m.adapter.NamesItself)
    (hown' : ∀ m ∈ o'.members, m.adapter.NamesItself)
    {q q' : Query} {clock clock' : Clock} {metrics metrics' : Metrics}
    {fetched fetched' : List Record}
    (hrun : (o.fetchAll q clock metrics).result = .records fetched)
    (hrun' : (o'.fetchAll q' clock' metrics').result = .records fetched')
    (hsame : ∀ p, broughtBy p (o.landings q clock metrics) =
      broughtBy p (o'.landings q' clock' metrics')) :
    let s := (Store.takeBatches .empty batches).2
    (∃ e e', s.upsert (c.score fetched).1 = .error e ∧ s.upsert (c.score fetched').1 = .error e') ∨
      ∃ ids ids' t t', s.upsert (c.score fetched).1 = .ok (ids, t) ∧
        s.upsert (c.score fetched').1 = .ok (ids', t') ∧
        ∃ ρ, Store.RenamesWithin ρ s.lastId t.lastId ∧ Store.AlikeUpTo ρ t t' ∧
          Store.AnswersAlike ρ t t' := by
  intro s
  have hshuffled : Store.SameByProvider fetched fetched' := fun p => by
    rw [Orchestrator.fetchAll_filter hnames hown hrun, hsame p,
      Orchestrator.fetchAll_filter hnames' hown' hrun']
  have hbooked := (Store.Booked.empty.takeBatches batches).1
  rcases Store.upsert_shuffled hbooked (c.score_shuffled hshuffled) with hrefused | htaken
  · exact Or.inl hrefused
  · obtain ⟨ids, ids', t, t', hx, hy, ρ, hids, halike⟩ := htaken
    exact Or.inr ⟨ids, ids', t, t', hx, hy, ρ, hids, halike, halike.answers⟩

/-! ## Two orders -/

/-- A provider that brings one of its records twice. -/
def echoing : List Record :=
  [.unseen "a" "1" "one", .unseen "a" "2" "two", .unseen "a" "1" "one again"]

/-- A provider that brings one record for the second time. -/
def returning : List Record := [.unseen "b" "1" "old", .unseen "b" "2" "new"]

/-- The two of them. The first answers after so many milliseconds, the second after two. -/
def twoProviders (millis : Nat) : Orchestrator :=
  (Orchestrator.new (.empty .standard) Orchestrator.standardDeadline).registerAll
    [.scripted "a" [⟨millis, .records echoing⟩] false 0,
      .scripted "b" [⟨2, .records returning⟩] false 0]

theorem twoProviders_named (millis : Nat) :
    ∀ m ∈ (twoProviders millis).members, m.adapter.NamesItself := by
  have hmembers : (twoProviders millis).members =
      [⟨.scripted "a" [⟨millis, .records echoing⟩] false 0, []⟩,
        ⟨.scripted "b" [⟨2, .records returning⟩] false 0, []⟩] := rfl
  rw [hmembers]
  simp only [List.mem_cons, List.not_mem_nil, or_false, forall_eq_or_imp, forall_eq]
  refine ⟨scripted_namesItself _ _ ?_, scripted_namesItself _ _ ?_⟩
  all_goals
    simp only [List.mem_singleton, forall_eq, Behavior.records.injEq, forall_eq']
    decide

/-- A coordinator that scores every record alike. -/
def evenhanded : Coordinator :=
  { Coordinator.new (twoProviders 1) ⟨0, ⟨0, 0⟩⟩ with scorer := constantScorer .zero }

/-- A fetch for anything, at the start of the clock. -/
def anything (o : Orchestrator) : FetchRun := o.fetchAll ⟨"", none, .never⟩ ⟨0, ⟨0, 0⟩⟩ .empty

/-- The provider whose call ends first gets the first new ids. -/
theorem the_first_provider_gets_the_first_new_ids :
    let s := (Store.takeBatches .empty [[.unseen "b" "1" "old"]]).2
    (anything (twoProviders 1)).result = .records (echoing ++ returning) ∧
      (anything (twoProviders 3)).result = .records (returning ++ echoing) ∧
      ∃ t t', s.upsert (evenhanded.score (echoing ++ returning)).1 = .ok ([2, 3, 2, 1, 4], t) ∧
        s.upsert (evenhanded.score (returning ++ echoing)).1 = .ok ([1, 2, 3, 4, 3], t') ∧
        ∃ ρ, Store.RenamesWithin ρ s.lastId t.lastId ∧ Store.AlikeUpTo ρ t t' ∧
          Store.AnswersAlike ρ t t' := by
  intro s
  have hlandings : ∀ millis ∈ [1, 3],
      (twoProviders millis).landings ⟨"", none, .never⟩ ⟨0, ⟨0, 0⟩⟩ .empty =
        [⟨"a", millis, .records echoing⟩, ⟨"b", 2, .records returning⟩] := by decide +kernel
  have hbrought : ∀ p,
      broughtBy p ((twoProviders 1).landings ⟨"", none, .never⟩ ⟨0, ⟨0, 0⟩⟩ .empty) =
        broughtBy p ((twoProviders 3).landings ⟨"", none, .never⟩ ⟨0, ⟨0, 0⟩⟩ .empty) := by
    intro p
    rw [hlandings 1 (by decide), hlandings 3 (by decide)]
    simp only [broughtBy_cons, Landing.records?]
  have hearly : (anything (twoProviders 1)).result = .records (echoing ++ returning) := by
    rw [anything, Orchestrator.fetchAll_result, hlandings 1 (by decide),
      inOrder_eq_self (by decide +kernel)]
    rfl
  have hlate : (anything (twoProviders 3)).result = .records (returning ++ echoing) := by
    have hturned : inOrder [⟨"a", 3, .records echoing⟩, ⟨"b", 2, .records returning⟩] =
        [⟨"b", 2, .records returning⟩, ⟨"a", 3, .records echoing⟩] :=
      inOrder_eq_of_perm (.swap _ _ _) (by decide +kernel)
    rw [anything, Orchestrator.fetchAll_result, hlandings 3 (by decide), hturned]
    rfl
  refine ⟨hearly, hlate, ?_⟩
  have hids : (s.upsert (evenhanded.score (echoing ++ returning)).1).map Prod.fst =
        .ok [2, 3, 2, 1, 4] ∧
      (s.upsert (evenhanded.score (returning ++ echoing)).1).map Prod.fst =
        .ok [1, 2, 3, 4, 3] := by decide +kernel
  rcases the_order_of_ends_decides_new_ids_alone [[.unseen "b" "1" "old"]] evenhanded (by decide)
    (by decide) (twoProviders_named 1) (twoProviders_named 3) hearly hlate hbrought with
    ⟨e, e', hx, hy⟩ | ⟨ids, ids', t, t', hx, hy, ρ, hρ⟩
  · rw [hx] at hids
    cases hids.1
  · rw [hx, hy] at hids
    obtain rfl := Except.ok.inj hids.1
    obtain rfl := Except.ok.inj hids.2
    exact ⟨t, t', hx, hy, ρ, hρ⟩

end Search

end FeedSearch
