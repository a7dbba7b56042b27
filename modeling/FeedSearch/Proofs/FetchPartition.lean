-- A fetch without crashes: it calls every provider that it may call once, and
-- its result holds what the calls have brought, each of it once, whatever the
-- order in which they end.
import FeedSearch.Proofs.FetchLandings

namespace FeedSearch.Fetch

/-! ## Every member is served -/

/-- Every member is served: a row of members, the ends of their calls, and the members after it. -/
inductive ServedAll (deadline : Time.Span) (q : Query) (admits : String → Bool) :
    List Member → List Landing → List Member → Prop where
  | nil : ServedAll deadline q admits [] [] []
  | cons {m m' : Member} {l : Landing} {rest rest' : List Member} {landings : List Landing}
      (h : Served deadline q (admits m.adapter.name) m l m')
      (hrest : ServedAll deadline q admits rest landings rest') :
      ServedAll deadline q admits (m :: rest) (l :: landings) (m' :: rest')

/-- Without crashes no member is left out. -/
theorem StartedAll.served {deadline : Time.Span} {q : Query} {admits : String → Bool}
    {members members' : List Member} {landings : List Landing}
    (h : StartedAll deadline q admits members landings members')
    (hcalm : ∀ l ∈ landings, l.outcome.isCrash = false) :
    ServedAll deadline q admits members landings members' := by
  induction h with
  | nil => exact .nil
  | crashed rest h hc =>
    rw [hcalm _ (.head _)] at hc
    cases hc
  | cons h _ ih => exact .cons h (ih fun l hl => hcalm l (.tail _ hl))

/-! ## The merge -/

/-- The records that a call has brought. -/
def Landing.records? (l : Landing) : Option (List Record) :=
  match l.outcome with
  | .records records => some records
  | _ => none

/-- The failure that a call has ended with. -/
def Landing.failure? (l : Landing) : Option ProviderFailure :=
  match l.outcome with
  | .failure cause => some { provider := l.provider, cause }
  | _ => none

/-- The lists of the calls that have succeeded. -/
def successes (landings : List Landing) : List (List Record) := landings.filterMap (·.records?)

/-- The failures of all other calls. -/
def failures (landings : List Landing) : List ProviderFailure := landings.filterMap (·.failure?)

/-- A result that holds what the calls have brought, each of it once. It is a failure if no records
came back and something failed, and lists all that failed; else it is the lists of the calls that
succeeded, one whole list after another. -/
def IsPartition (landings : List Landing) : Result → Prop
  | .records all => ((successes landings).flatten ≠ [] ∨ failures landings = []) ∧
      ∃ lists : List (List Record), lists.Perm (successes landings) ∧ all = lists.flatten
  | .allFailed failed => (successes landings).flatten = [] ∧ failures landings ≠ [] ∧
      failed.Perm (failures landings)
  | .crashed => False

theorem foldl_add (landings : List Landing) (m : Merge) :
    landings.foldl Merge.add m =
      ⟨m.records ++ (successes landings).flatten, m.failures ++ failures landings⟩ := by
  induction landings generalizing m with
  | nil => simp [successes, failures]
  | cons l rest ih =>
    rw [List.foldl_cons, ih]
    unfold successes failures Merge.add
    cases h : l.outcome with
    | records records => simp [Landing.records?, Landing.failure?, h]
    | failure cause => simp [Landing.records?, Landing.failure?, h]
    | crash => simp [Landing.records?, Landing.failure?, h]

/-- What a fetch brings is merged from the lists of the calls that have succeeded. -/
theorem resultOf_records {ordered : List Landing} {all : List Record}
    (h : resultOf ordered = .records all) : all = (successes ordered).flatten := by
  unfold resultOf at h
  split at h
  · cases h
  · rw [foldl_add, Merge.result] at h
    split at h
    · cases h
    · exact (Result.records.inj h).symm

/-- Whatever the order in which the calls end. -/
theorem resultOf_partition {landings ordered : List Landing} (hp : ordered.Perm landings)
    (hcalm : ∀ l ∈ landings, l.outcome.isCrash = false) :
    IsPartition landings (resultOf ordered) := by
  have hnone : ordered.any (·.outcome.isCrash) = false := by
    rw [List.any_eq_false]
    exact fun l hl => by rw [hcalm l (hp.mem_iff.mp hl)]; simp
  -- Another order of the ends brings the same lists and the same failures in another order.
  have hlists : (successes ordered).Perm (successes landings) := hp.filterMap _
  have hfailed : (failures ordered).Perm (failures landings) := hp.filterMap _
  have hflat : (successes ordered).flatten = [] ↔ (successes landings).flatten = [] := by
    rw [← List.length_eq_zero_iff, ← List.length_eq_zero_iff, hlists.flatten.length_eq]
  have hempty : failures ordered = [] ↔ failures landings = [] := by
    rw [← List.length_eq_zero_iff, ← List.length_eq_zero_iff, hfailed.length_eq]
  simp only [resultOf, hnone, Bool.false_eq_true, if_false, foldl_add, Merge.empty,
    List.nil_append, Merge.result]
  split
  · rename_i h
    simp only [Bool.and_eq_true, List.isEmpty_iff, Bool.not_eq_true', List.isEmpty_eq_false_iff]
      at h
    exact ⟨hflat.mp h.1, fun he => h.2 (hempty.mpr he), hfailed⟩
  · rename_i h
    refine ⟨?_, _, hlists, rfl⟩
    by_cases hf : (successes landings).flatten = []
    · right
      simp only [Bool.and_eq_true, List.isEmpty_iff, Bool.not_eq_true', List.isEmpty_eq_false_iff,
        not_and, hflat.mpr hf, true_implies, Classical.not_not] at h
      exact hempty.mp h
    · exact Or.inl hf

/-! ## The law -/

/-- A fetch from adapters that do not crash serves the latest adapter of every name, and calls it
once if its breaker admits it and the caller has not given up, else not at all. Its result holds
what the calls have brought, each of it once, and would do so in any order of their ends. -/
theorem a_fetch_takes_from_every_provider_once (adapters : List Adapter) (bs : Breakers)
    (deadline : Time.Span) (q : Query) (clock : Clock) (metrics : Metrics)
    (hcalm : ∀ a ∈ latest adapters, a.Calm) :
    let o := (Orchestrator.new bs deadline).registerAll adapters
    let run := o.fetchAll q clock metrics
    let landings := o.landings q clock metrics
    ServedAll deadline q (bs.admits · clock.running) ((latest adapters).map (⟨·, []⟩)) landings
        run.orchestrator.members ∧
      IsPartition landings run.result ∧ run.result = resultOf (inOrder landings) ∧
      ∀ ordered, ordered.Perm landings → IsPartition landings (resultOf ordered) := by
  intro o run landings
  have hmembers : o.members = (latest adapters).map (⟨·, []⟩) := registerAll_members _ adapters
  have hnames : (o.members.map (·.adapter.name)).Nodup := by
    rw [hmembers, List.map_map]
    exact latest_names_nodup adapters
  have hmemberCalm : ∀ m ∈ o.members, m.adapter.Calm := by
    rw [hmembers]
    simpa using hcalm
  have hstarted := o.fetchAll_started q clock metrics hnames
  have hlandings := hstarted.calm hmemberCalm
  have hserved := hstarted.served hlandings
  have hpartition : ∀ ordered, ordered.Perm landings → IsPartition landings (resultOf ordered) :=
    fun _ hp => resultOf_partition hp hlandings
  refine ⟨?_, hpartition _ (List.mergeSort_perm _ _), rfl, hpartition⟩
  rw [hmembers, registerAll_deadline, registerAll_breakers] at hserved
  exact hserved

/-! ## A fetch for which it holds -/

theorem scripted_calm (name : String) (script : List Scene) (ignoreKind : Bool) (start : Nat)
    (h : ∀ scene ∈ script, scene.behavior ≠ .crash) :
    (Adapter.scripted name script ignoreKind start).Calm := by
  intro call
  have hscene : ∀ index, (sceneAt script index).behavior ≠ .crash := by
    intro index
    unfold sceneAt
    rcases hget : script[index]? with _ | scene
    · rcases hlast : script.getLast? with _ | scene
      · exact Behavior.noConfusion
      · exact h scene (List.mem_of_getLast? hlast)
    · exact h scene (List.mem_of_getElem? hget)
  have hne := hscene (call.index - start)
  simp only [Adapter.scripted, Scene.reply]
  cases hb : (sceneAt script (call.index - start)).behavior with
  | crash => exact absurd hb hne
  | records records => exact Answer.noConfusion
  | fail chain => exact Answer.noConfusion
  | hang => exact Answer.noConfusion

/-- The second adapter of a name takes the place of the first, and fails where that would not. -/
def replacedAdapters : List Adapter :=
  [.scripted "a" [⟨0, .records [.unseen "a" "1" ""]⟩] false 0,
    .scripted "b" [⟨3, .records [.unseen "b" "1" ""]⟩] false 0,
    .scripted "a" [⟨5, .fail ["down"]⟩] false 0]

theorem a_replaced_adapter_takes_no_part :
    (∀ a ∈ latest replacedAdapters, a.Calm) ∧
      let o := (Orchestrator.new (.empty .standard) .longest).registerAll replacedAdapters
      let q : Query := ⟨"", none, .never⟩
      o.landings q ⟨0, ⟨0, 0⟩⟩ .empty =
          [⟨"b", 3, .records [.unseen "b" "1" ""]⟩, ⟨"a", 5, .failure (.provider ["down"])⟩] ∧
        IsPartition (o.landings q ⟨0, ⟨0, 0⟩⟩ .empty)
          (o.fetchAll q ⟨0, ⟨0, 0⟩⟩ .empty).result := by
  have hcalm : ∀ a ∈ latest replacedAdapters, a.Calm := by
    have hlatest : latest replacedAdapters = replacedAdapters.drop 1 := by
      simp [latest, replacedAdapters, Adapter.scripted]
    rw [hlatest]
    simp only [replacedAdapters, List.drop_succ_cons, List.drop_zero, List.mem_cons,
      List.not_mem_nil, or_false, forall_eq_or_imp, forall_eq]
    exact ⟨scripted_calm _ _ _ _ (by simp), scripted_calm _ _ _ _ (by simp)⟩
  refine ⟨hcalm, by decide +kernel, ?_⟩
  exact (a_fetch_takes_from_every_provider_once replacedAdapters (.empty .standard) .longest
    ⟨"", none, .never⟩ ⟨0, ⟨0, 0⟩⟩ .empty hcalm).2.1

end FeedSearch.Fetch
