-- Searches at once are a session too: they start in order, their calls end in the order
-- of time, and a search goes on when its last call has ended. So the counters come out
-- right after them.
import FeedSearch.Proofs.SearchesAsSessions
import FeedSearch.Search.Parallel

namespace FeedSearch.Search

open Fetch

/-! ## Searches that wait -/

/-- A search stands where it has come to, given how its calls that have not ended will end. A call
that was left out follows a crash. -/
inductive Progress.Stands (awaited : List Landing) : Progress → Standing → Prop where
  | ended (outcome : Outcome) : Stands awaited (.over outcome) (.staged (.finished outcome))
  | waiting {r : Request} {left : Nat} {merge : Merge} {uncalled : List String}
      {inAir : List Landing} (hinAir : inAir.Perm awaited) (hleft : left = awaited.length)
      (hcalled : uncalled = [] ∨ ∃ l ∈ awaited, l.outcome.isCrash = true) :
      Stands awaited (.waiting r left merge) (.calling r uncalled inAir merge)

/-- It does not matter in which order the calls will end. -/
theorem Progress.Stands.perm {awaited awaited' : List Landing} {p : Progress} {s : Standing}
    (h : p.Stands awaited s) (hperm : awaited.Perm awaited') : p.Stands awaited' s := by
  cases h with
  | ended outcome => exact .ended outcome
  | waiting hinAir hleft hcalled =>
    refine .waiting (hinAir.trans hperm) (hleft.trans hperm.length_eq) ?_
    simpa only [hperm.mem_iff] using hcalled

namespace Session

namespace Comes

variable {c : Coordinator} {awaited : List Landing} {p : Progress} {s : Standing}

/-- With the result of its fetch, a search goes on to its end. -/
theorem finish (c : Coordinator) (r : Request) (merge : Merge) :
    ∃ s, Comes .never c (.calling r [] [] merge) (c.finish r merge.result).2 s ∧
      (c.finish r merge.result).1.Stands [] s := by
  have hgo : Comes .never c (.calling r [] [] merge) (c.afterFetch r merge.result).2
      (.staged (c.afterFetch r merge.result).1) := of_move (m := .go) (b := .empty) rfl
  have hrun := run .never (c.afterFetch r merge.result).2 (c.afterFetch r merge.result).1
    Coordinator.maxStages
  have hleft := c.afterFetch_left r merge.result
  rw [Coordinator.run_finished _ .never _
    (hleft.trans (by decide : 4 ≤ Coordinator.maxStages))] at hrun
  exact ⟨_, hgo.trans hrun, .ended _⟩

/-- One of the calls that a search waits for ends. -/
theorem endCall {l : Landing} (h : p.Stands (l :: awaited) s) :
    ∃ s', Comes .never c s (c.endCall p l).2 s' ∧ (c.endCall p l).1.Stands awaited s' := by
  cases h with
  | ended outcome => exact ⟨_, refl _ _ _, .ended outcome⟩
  | @waiting r left merge uncalled inAir hinAir hleft hcalled =>
    obtain ⟨place, hplace, hl⟩ := List.getElem_of_mem (hinAir.mem_iff.mpr List.mem_cons_self)
    have hat : inAir[place]? = some l := by rw [List.getElem?_eq_getElem hplace, hl]
    have hrest : (inAir.eraseIdx place).Perm awaited := by
      have hperm := (List.getElem_cons_eraseIdx_perm hplace).trans hinAir
      rw [hl] at hperm
      exact hperm.cons_inv
    unfold Coordinator.endCall
    cases hcrash : l.outcome.isCrash with
    | true =>
      refine ⟨.staged (.finished .crashed), of_move (m := .land place) (b := .empty) ?_, .ended _⟩
      simp only [Coordinator.move, Coordinator.endOne, hat, hcrash]
      rfl
    | false =>
      have hland : Comes .never c (.calling r uncalled inAir merge) _ _ := land hat hcrash c.clock
      have hfield : c.withField (Fetch.land c.field l c.clock.running) = { c with
          orchestrator := { c.orchestrator with
            breakers := (Fetch.land c.field l c.clock.running).breakers }
          metrics := (Fetch.land c.field l c.clock.running).metrics } := by
        simp only [Coordinator.withField, Coordinator.field, Fetch.land]
        cases l.outcome <;> rfl
      have hcalled' : uncalled = [] ∨ ∃ l ∈ awaited, l.outcome.isCrash = true := by
        rcases hcalled with hcalled | ⟨n, hn, hncrash⟩
        · exact Or.inl hcalled
        · rcases List.mem_cons.mp hn with rfl | hn
          · rw [hncrash] at hcrash
            cases hcrash
          · exact Or.inr ⟨n, hn, hncrash⟩
      simp only [Bool.false_eq_true, if_false]
      rw [List.length_cons] at hleft
      split
      · rename_i hlast
        have hnone : awaited = [] := List.length_eq_zero_iff.mp (by omega)
        subst hnone
        rw [hrest.eq_nil] at hland
        have hall : uncalled = [] := by simpa using hcalled'
        subst hall
        obtain ⟨s', hfinish, hstands⟩ := finish (c.withField (Fetch.land c.field l c.clock.running))
          r (merge.add l)
        rw [hfield] at hland hfinish hstands
        exact ⟨s', hland.trans hfinish, hstands⟩
      · rw [hfield] at hland
        exact ⟨_, hland, .waiting hrest (by omega) hcalled'⟩

theorem endCalls (ended : List Landing) (c : Coordinator) (p : Progress) (s : Standing)
    (h : p.Stands (ended ++ awaited) s) :
    ∃ s', Comes .never c s (c.endCalls p ended).2 s' ∧
      (c.endCalls p ended).1.Stands awaited s' := by
  induction ended generalizing c p s with
  | nil => exact ⟨s, refl _ _ _, h⟩
  | cons l ended ih =>
    obtain ⟨s', hone, hstands⟩ := endCall (c := c) h
    obtain ⟨s'', hrest, hstands'⟩ := ih _ _ s' hstands
    exact ⟨s'', hone.trans hrest, hstands'⟩

/-- The start of a search. Calls that end at once have ended before anything else happens. -/
theorem launch (c : Coordinator) (r : Request) (hnames : c.orchestrator.names.Nodup) :
    ∃ s, Comes .never c (.staged (.lookup (normalize c.limits r))) (c.launch r).2.2 s ∧
      (c.launch r).1.Stands (c.launch r).2.1 s := by
  have hlookup := step .never c (.lookup (normalize c.limits r))
  simp only [Coordinator.step] at hlookup
  unfold Coordinator.launch
  rcases c.stepLookup_cases (normalize c.limits r) with
    ⟨_, _, _, _, hs⟩ | ⟨cache, metrics, _, _, hs⟩
  · rw [hs] at hlookup ⊢
    exact ⟨_, hlookup, .ended _⟩
  · rw [hs] at hlookup ⊢
    generalize ({ c with cache, metrics } : Coordinator) = c' at hlookup ⊢
    generalize normalize c.limits r = r' at hlookup ⊢
    have hbegin : Comes .never c' (.staged (.fetching r')) c'
        (.calling r' c'.orchestrator.names [] .empty) :=
      of_move (m := .go) (b := { Books.empty with fetches := 1 }) rfl
    obtain ⟨uncalled, hcalled, hcalls⟩ :=
      calls .never r' .empty c'.orchestrator.members c' [] [] rfl (hlookup.names hnames ▸ hnames)
    have hstarted := (hlookup.trans hbegin).trans hcalls
    simp only [List.nil_append] at hstarted
    have hfield : c'.field = ⟨c'.orchestrator.breakers, c'.clock, c'.metrics⟩ := rfl
    simp only [← hfield]
    rcases hstart : startAll c'.orchestrator.deadline (Coordinator.query r' .never)
      c'.orchestrator.members c'.field with ⟨landings, members, f⟩
    rw [hstart] at hcalled hstarted
    cases landings with
    | nil =>
      have hall : uncalled = [] := by simpa using hcalled
      subst hall
      obtain ⟨s, hfinish, hstands⟩ := finish ((c'.withMembers members).withField f) r' .empty
      exact ⟨s, hstarted.trans hfinish, hstands⟩
    | cons l rest =>
      generalize hall : l :: rest = landings at hcalled hstarted ⊢
      have hsplit : landings.Perm
          (landings.filter (·.millis == 0) ++ landings.filter (·.millis != 0)) :=
        (List.filter_append_perm (·.millis == 0) landings).symm
      have hstands : (Progress.waiting r' landings.length .empty).Stands
          (landings.filter (·.millis == 0) ++ landings.filter (·.millis != 0))
          (.calling r' uncalled landings .empty) := by
        refine .waiting hsplit hsplit.length_eq ?_
        rcases hcalled with hcalled | ⟨n, hn, hcrash⟩
        · exact Or.inl hcalled
        · exact Or.inr ⟨n, hsplit.mem_iff.mp hn, hcrash⟩
      obtain ⟨s, hended, hstands'⟩ := endCalls _ ((c'.withMembers members).withField f) _ _ hstands
      have hsome : landings.isEmpty = false := by
        rw [← hall]
        rfl
      simp only [hsome]
      exact ⟨s, hstarted.trans hended, hstands'⟩

end Comes

/-! ## Searches side by side -/

/-- How the calls of a search will end that have not ended. -/
def awaited (arrivals : List Arrival) (number : Nat) : List Landing :=
  (arrivals.filter (·.search == number)).map (·.landing)

/-- Searches stand where they have come to, given all that has not arrived. The numbers of the
searches begin with `first`. -/
def Stand (first : Nat) (arrivals : List Arrival) (ps : List Progress) (standings : List Standing) :
    Prop :=
  ps.length = standings.length ∧ ∀ i p s, ps[i]? = some p → standings[i]? = some s →
    Progress.Stands (awaited arrivals (first + i)) p s

/-- Searches that nobody gives up. -/
def pursued (standings : List Standing) : List Pursuit := standings.map (⟨.never, ·⟩)

theorem awaited_append (arrivals arrivals' : List Arrival) (number : Nat) :
    awaited (arrivals ++ arrivals') number =
      awaited arrivals number ++ awaited arrivals' number := by
  simp [awaited]

theorem awaited_self (landings : List Landing) (number : Nat) :
    awaited (landings.map (⟨number, ·⟩)) number = landings := by
  unfold awaited
  rw [List.filter_eq_self.mpr (by simp), List.map_map]
  exact List.map_id' landings

theorem awaited_eq_nil {arrivals : List Arrival} {number : Nat}
    (h : ∀ a ∈ arrivals, a.search ≠ number) : awaited arrivals number = [] := by
  simpa [awaited] using h

/-- Searches that have started are numbered in the order of their starts. -/
theorem launchAll_numbers (c : Coordinator) (number : Nat) (requests : List Request) :
    ∀ a ∈ (c.launchAll number requests).2.1, number ≤ a.search := by
  induction requests generalizing c number with
  | nil => exact List.forall_mem_nil _
  | cons r rest ih =>
    simp only [Coordinator.launchAll]
    split
    · exact List.forall_mem_nil _
    · intro a ha
      rcases List.mem_append.mp ha with ha | ha
      · obtain ⟨l, _, rfl⟩ := List.mem_map.mp ha
        exact Nat.le_refl _
      · exact Nat.le_of_succ_le (ih _ _ a ha)

/-- A crashed search waits for nothing. -/
theorem stands_of_isCrash {p : Progress} (hcrash : p.isCrash = true)
    {landings landings' : List Landing} {s : Standing} (h : p.Stands landings s) :
    p.Stands landings' s := by
  cases h with
  | ended outcome => exact .ended outcome
  | waiting _ _ _ => cases hcrash

theorem Stand.perm {first : Nat} {arrivals arrivals' : List Arrival} {ps : List Progress}
    {standings : List Standing} (h : Stand first arrivals ps standings)
    (hperm : arrivals.Perm arrivals') : Stand first arrivals' ps standings :=
  ⟨h.1, fun i p s hp hs => (h.2 i p s hp hs).perm ((hperm.filter _).map _)⟩

/-- A crash stops everything. -/
theorem foldl_arrive_of_isCrash (start : Instant) {ps : List Progress} (c : Coordinator)
    (hcrash : ps.any Progress.isCrash = true) (arrivals : List Arrival) :
    arrivals.foldl (Coordinator.arrive start) (ps, c) = (ps, c) := by
  induction arrivals with
  | nil => rfl
  | cons a rest ih =>
    rw [List.foldl_cons, Coordinator.arrive, hcrash, if_pos rfl]
    exact ih

namespace Leads

/-- Searches start one after another, until one crashes. -/
theorem launchAll (requests : List Request) (c : Coordinator) (number : Nat)
    (pursuits : List Pursuit) (hnames : c.orchestrator.names.Nodup) :
    ∃ standings,
      Leads c pursuits (c.launchAll number requests).2.2 (pursuits ++ pursued standings) ∧
      Stand number (c.launchAll number requests).2.1 (c.launchAll number requests).1 standings := by
  induction requests generalizing c number pursuits with
  | nil =>
    refine ⟨[], ?_, rfl, fun i p s hp => ?_⟩
    · simp only [pursued, List.map_nil, List.append_nil]
      exact refl c pursuits
    · simp [Coordinator.launchAll] at hp
  | cons r rest ih =>
    obtain ⟨s, hcomes, hstands⟩ := Comes.launch c r hnames
    have hone := (start c pursuits r .never).trans (hcomes pursuits [])
    simp only [Coordinator.launchAll]
    rcases hl : c.launch r with ⟨p, later, c'⟩
    rw [hl] at hone hstands
    simp only
    split
    · rename_i hcrash
      refine ⟨[s], hone, rfl, ?_⟩
      rintro (_ | i) p' s' hp hs
      · cases hp
        cases hs
        exact stands_of_isCrash hcrash hstands
      · simp at hp
    · obtain ⟨standings, hrest, hlength, hall⟩ := ih c' (number + 1)
        (pursuits ++ [⟨.never, s⟩]) ((hone.names hnames).symm ▸ hnames)
      refine ⟨s :: standings, ?_, congrArg Nat.succ hlength, ?_⟩
      · rw [List.append_assoc] at hrest
        exact hone.trans hrest
      · rintro (_ | i) p' s' hp hs
        · cases hp
          cases hs
          have hlater : awaited (c'.launchAll (number + 1) rest).2.1 number = [] := by
            apply awaited_eq_nil
            intro a ha
            exact Nat.ne_of_gt (launchAll_numbers c' (number + 1) rest a ha)
          simp only [Nat.add_zero, awaited_append, awaited_self, hlater, List.append_nil]
          exact hstands
        · have hown : awaited (later.map (⟨number, ·⟩)) (number + (i + 1)) = [] := by
            apply awaited_eq_nil
            intro a ha
            obtain ⟨l, _, rfl⟩ := List.mem_map.mp ha
            exact Nat.ne_of_lt (Nat.lt_add_of_pos_right (Nat.succ_pos i))
          rw [awaited_append, hown, List.nil_append, ← Nat.add_assoc, Nat.add_right_comm]
          exact hall i p' s' hp hs

/-- A call ends, so long after the start of all. -/
theorem arrive (start : Instant) {c : Coordinator} {ps : List Progress} {standings : List Standing}
    {a : Arrival} {rest : List Arrival} (h : Stand 0 (a :: rest) ps standings)
    (hcalm : ps.any Progress.isCrash = false) (pursuits : List Pursuit) :
    ∃ standings', Leads c (pursuits ++ pursued standings) (Coordinator.arrive start (ps, c) a).2
        (pursuits ++ pursued standings') ∧
      Stand 0 rest (Coordinator.arrive start (ps, c) a).1 standings' := by
  obtain ⟨hlength, hall⟩ := h
  have hothers : ∀ i, i ≠ a.search → awaited (a :: rest) (0 + i) = awaited rest (0 + i) := by
    intro i hi
    unfold awaited
    rw [List.filter_cons_of_neg (by simpa using Ne.symm hi)]
  simp only [Coordinator.arrive, hcalm, Bool.false_eq_true, if_false]
  cases hp : ps[a.search]? with
  | none =>
    refine ⟨standings, refl _ _, hlength, ?_⟩
    intro i p s hpi hsi
    rw [← hothers i fun he => by rw [he, hp] at hpi; cases hpi]
    exact hall i p s hpi hsi
  | some p =>
    obtain ⟨hlt, rfl⟩ := List.getElem?_eq_some_iff.mp hp
    have hlt' : a.search < standings.length := hlength ▸ hlt
    have hs : standings[a.search]? = some standings[a.search] := List.getElem?_eq_getElem hlt'
    have hstands := hall a.search _ _ hp hs
    have hself : awaited (a :: rest) (0 + a.search) = a.landing :: awaited rest (0 + a.search) := by
      simp [awaited]
    rw [hself] at hstands
    obtain ⟨s', hended, hstands'⟩ := Comes.endCall
      (c := c.withClock (c.clock.moveTo (start + 1000000 * a.landing.millis))) hstands
    refine ⟨standings.set a.search s', ?_, ?_, ?_⟩
    · have hplace : (pursuits ++ pursued standings)[pursuits.length + a.search]? =
          some ⟨.never, standings[a.search]⟩ := by
        rw [List.getElem?_append_right (Nat.le_add_right _ _), Nat.add_sub_cancel_left, pursued,
          List.getElem?_map, hs]
        rfl
      have hled := ((Comes.wait .never c standings[a.search] _).trans hended).leads hplace
      rw [List.set_append_right _ _ (Nat.le_add_right _ _), Nat.add_sub_cancel_left] at hled
      unfold pursued at hled ⊢
      rw [List.map_set]
      exact hled
    · rw [List.length_set, List.length_set, hlength]
    · intro i p s hpi hsi
      by_cases hi : i = a.search
      · subst hi
        rw [List.getElem?_set_self hlt] at hpi
        rw [List.getElem?_set_self hlt'] at hsi
        cases hpi
        cases hsi
        exact hstands'
      · rw [List.getElem?_set_ne (Ne.symm hi)] at hpi hsi
        rw [← hothers i hi]
        exact hall i p s hpi hsi

/-- Calls end one after another, as long as none crashes. -/
theorem arrivals (start : Instant) (pursuits : List Pursuit) (arrivals : List Arrival)
    (c : Coordinator) (ps : List Progress) (standings : List Standing)
    (h : Stand 0 arrivals ps standings)
    (hcalm : (arrivals.foldl (Coordinator.arrive start) (ps, c)).1.any Progress.isCrash = false) :
    ∃ standings', Leads c (pursuits ++ pursued standings)
        (arrivals.foldl (Coordinator.arrive start) (ps, c)).2 (pursuits ++ pursued standings') ∧
      Stand 0 [] (arrivals.foldl (Coordinator.arrive start) (ps, c)).1 standings' := by
  induction arrivals generalizing c ps standings with
  | nil => exact ⟨standings, refl _ _, h⟩
  | cons a rest ih =>
    rw [List.foldl_cons] at hcalm ⊢
    cases hcrash : ps.any Progress.isCrash with
    | true =>
      rw [Coordinator.arrive, hcrash, if_pos rfl, foldl_arrive_of_isCrash start c hcrash,
        hcrash] at hcalm
      cases hcalm
    | false =>
      obtain ⟨standings', hone, hstand⟩ := arrive start h hcrash pursuits (c := c)
      obtain ⟨standings'', hrest, hstand'⟩ := ih _ _ standings' hstand hcalm
      exact ⟨standings'', hone.trans hrest, hstand'⟩

end Leads

theorem outcome?_eq_some {p : Progress} {outcome : Outcome} :
    Coordinator.Progress.outcome? p = some outcome ↔ p = .over outcome ∧ outcome ≠ .crashed := by
  unfold Coordinator.Progress.outcome?
  split
  · simp [eq_comm]
  · rename_i outcome' hne
    simp only [Option.some.injEq, Progress.over.injEq]
    constructor
    · rintro rfl
      exact ⟨rfl, fun he => hne (he ▸ rfl)⟩
    · exact And.left
  · simp

/-- All searches have outcomes if they are over and none of them has crashed. -/
theorem mapM_outcome? {ps : List Progress} {outcomes : List Outcome}
    (h : ps.mapM Coordinator.Progress.outcome? = some outcomes) :
    ps = outcomes.map .over ∧ ∀ o ∈ outcomes, o ≠ .crashed := by
  induction ps generalizing outcomes with
  | nil =>
    obtain rfl : [] = outcomes := by simpa using h
    exact ⟨rfl, nofun⟩
  | cons p ps ih =>
    rw [List.mapM_cons] at h
    obtain ⟨o, ho, hrest⟩ := Option.bind_eq_some_iff.mp h
    obtain ⟨os, hos, hcons⟩ := Option.bind_eq_some_iff.mp hrest
    obtain rfl : o :: os = outcomes := Option.some.inj hcons
    obtain ⟨rfl, hne⟩ := outcome?_eq_some.mp ho
    obtain ⟨rfl, hall⟩ := ih hos
    exact ⟨rfl, List.forall_mem_cons.mpr ⟨hne, hall⟩⟩

/-- Searches that are over stand at their outcomes. -/
theorem standings_of_over {arrivals : List Arrival} {outcomes : List Outcome}
    {standings : List Standing} (h : Stand 0 arrivals (outcomes.map .over) standings) :
    standings = outcomes.map (fun o => .staged (.finished o)) := by
  obtain ⟨hlength, hall⟩ := h
  refine List.ext_getElem (by simpa using hlength.symm) fun i hi hi' => ?_
  have ho : i < outcomes.length := by simpa using hi'
  have hstands := hall i (.over outcomes[i]) standings[i] (by simp [ho])
    (List.getElem?_eq_getElem hi)
  rw [List.getElem_map]
  generalize standings[i] = s at hstands ⊢
  cases hstands with
  | ended outcome => rfl

theorem any_isCrash_eq_false {outcomes : List Outcome} (hne : ∀ o ∈ outcomes, o ≠ .crashed) :
    (outcomes.map Progress.over).any Progress.isCrash = false := by
  rw [List.any_map, List.any_eq_false]
  intro o ho
  cases o with
  | crashed => exact absurd rfl (hne _ ho)
  | found response status => exact Bool.false_ne_true
  | failed error => exact Bool.false_ne_true

variable {c c' : Coordinator} {requests : List Request} {outcomes : List Outcome}

/-- Searches at once that have outcomes are all over in the end, and none of them has crashed. -/
theorem searchAll_eq_some (hsearch : c.searchAll requests = (some outcomes, c')) :
    (Coordinator.byTime (c.launchAll 0 requests).2.1).foldl (Coordinator.arrive c.clock.running)
        ((c.launchAll 0 requests).1, (c.launchAll 0 requests).2.2) = (outcomes.map .over, c') ∧
      ∀ o ∈ outcomes, o ≠ .crashed := by
  unfold Coordinator.searchAll at hsearch
  obtain ⟨hmapM, hended⟩ := Prod.mk.inj hsearch
  obtain ⟨hover, hne⟩ := mapM_outcome? hmapM
  exact ⟨Prod.ext hover hended, hne⟩

/-- Searches at once are a session: whatever has been searched before, these searches follow it, and
each of them ends with its outcome. -/
theorem Leads.searchAll (hsearch : c.searchAll requests = (some outcomes, c'))
    (pursuits : List Pursuit) :
    Leads c pursuits c'
      (pursuits ++ pursued (outcomes.map fun o => .staged (.finished o))) := by
  intro hnames
  suffices h : Leads c pursuits c'
      (pursuits ++ pursued (outcomes.map fun o => .staged (.finished o))) from h hnames
  obtain ⟨hover, hne⟩ := searchAll_eq_some hsearch
  obtain ⟨standings, hlaunched, hstand⟩ := Leads.launchAll requests c 0 pursuits hnames
  obtain ⟨standings', hended, hstand'⟩ := Leads.arrivals c.clock.running pursuits
    (Coordinator.byTime (c.launchAll 0 requests).2.1) (c.launchAll 0 requests).2.2
    (c.launchAll 0 requests).1 standings (hstand.perm (List.mergeSort_perm _ _).symm)
    (by rw [hover]; exact any_isCrash_eq_false hne)
  rw [hover] at hended hstand'
  rw [standings_of_over hstand'] at hended
  exact hlaunched.trans hended

/-! ## The counters after searches at once -/

theorem launchAll_length (c : Coordinator) (number : Nat) (requests : List Request)
    (hcalm : (c.launchAll number requests).1.any Progress.isCrash = false) :
    (c.launchAll number requests).1.length = requests.length := by
  induction requests generalizing c number with
  | nil => rfl
  | cons r rest ih =>
    simp only [Coordinator.launchAll] at hcalm ⊢
    split at hcalm
    · rename_i hcrash
      simp [hcrash] at hcalm
    · rename_i hcrash
      rw [if_neg hcrash]
      exact congrArg Nat.succ (ih _ _ (Bool.or_eq_false_iff.mp hcalm).2)

theorem arrive_length (start : Instant) (s : List Progress × Coordinator) (a : Arrival) :
    (Coordinator.arrive start s a).1.length = s.1.length := by
  simp only [Coordinator.arrive]
  split
  · rfl
  · split
    · rfl
    · exact List.length_set

theorem foldl_arrive_length (start : Instant) (arrivals : List Arrival)
    (s : List Progress × Coordinator) :
    (arrivals.foldl (Coordinator.arrive start) s).1.length = s.1.length := by
  induction arrivals generalizing s with
  | nil => rfl
  | cons a rest ih => exact (ih _).trans (arrive_length start s a)

/-- If the searches have outcomes, every one of them has. -/
theorem searchAll_length (hsearch : c.searchAll requests = (some outcomes, c')) :
    outcomes.length = requests.length := by
  obtain ⟨hover, hne⟩ := searchAll_eq_some hsearch
  have hcalm : (c.launchAll 0 requests).1.any Progress.isCrash = false := by
    by_contra hcrash
    rw [Bool.not_eq_false] at hcrash
    rw [foldl_arrive_of_isCrash _ _ hcrash] at hover
    rw [congrArg Prod.fst hover, any_isCrash_eq_false hne] at hcrash
    cases hcrash
  have hkept := foldl_arrive_length c.clock.running
    (Coordinator.byTime (c.launchAll 0 requests).2.1)
    ((c.launchAll 0 requests).1, (c.launchAll 0 requests).2.2)
  rw [hover] at hkept
  simpa [launchAll_length c 0 requests hcalm] using hkept

/-- The first searches on a coordinator, all at once, leave counters that fit together: as many hits
and misses as searches, as many fetches from every provider as misses, and no more failed writes
than responses that had to be fetched. -/
theorem searchAll_counts (hsearch : c.searchAll requests = (some outcomes, c'))
    (hempty : c.metrics = .empty) (hnames : c.orchestrator.names.Nodup) :
    c'.metrics.hits + c'.metrics.misses = requests.length ∧
      (∀ p ∈ c.orchestrator.names, c'.metrics.outcomes.total (·.1 == p) = c'.metrics.misses ∧
        c'.metrics.fetches.total (· == p) = c'.metrics.misses) ∧
      c'.metrics.writeErrors ≤
        outcomes.countP fun o => Standing.isMiss (.staged (.finished o)) := by
  obtain ⟨-, hne⟩ := searchAll_eq_some hsearch
  obtain ⟨acts, books, hplay⟩ := Leads.searchAll hsearch [] hnames .empty
  let ended : List Pursuit := pursued (outcomes.map fun o => .staged (.finished o))
  have hover : ∀ s ∈ ended, s.standing.IsOver := by
    intro s hs
    obtain ⟨standing, hstanding, rfl⟩ := List.mem_map.mp hs
    obtain ⟨o, ho, rfl⟩ := List.mem_map.mp hstanding
    exact ⟨o, rfl, hne o ho⟩
  have hbalanced : Session.Balanced c.orchestrator.names ⟨c', ended, books⟩ := by
    have hkept := Balanced.play hnames (Or.inr (balanced_of c hempty)) acts
    rw [show (Session.of c).play acts = ⟨c', ended, books⟩ from hplay] at hkept
    refine hkept.resolve_left ?_
    rintro ⟨s, hs, hcrash⟩
    obtain ⟨o, ho, hcalm⟩ := hover s hs
    rw [hcrash] at ho
    cases ho
    exact hcalm rfl
  have hmisses : c'.metrics.misses = books.fetches := by
    have hfetches := hbalanced.fetches
    rwa [owed_of_isOver hover fun _ => rfl] at hfetches
  refine ⟨?_, fun p hp => ⟨?_, ?_⟩, ?_⟩
  · have hlookups := hbalanced.lookups
    rw [owed_of_isOver hover fun _ => rfl] at hlookups
    simpa [ended, pursued, searchAll_length hsearch] using hlookups
  · have houtcomes := hbalanced.outcomes p hp
    rw [owed_of_isOver hover fun _ => rfl] at houtcomes
    exact houtcomes.trans hmisses.symm
  · have htimes := hbalanced.times p hp
    rw [owed_of_isOver hover fun _ => rfl] at htimes
    exact htimes.trans hmisses.symm
  · have hanswers := hbalanced.answers
    rw [owed_missed] at hanswers
    simp only [ended, pursued, List.countP_map] at hanswers
    exact (Nat.le_add_left _ books.written).trans (Nat.le_of_eq hanswers.symm)

end Session

end FeedSearch.Search
