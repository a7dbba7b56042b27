-- Every search is a session. What a coordinator does in a search, a session can do in
-- single moves: the stages, the starts of the calls, and their ends at their times. So
-- what has been proved of all sessions holds of all searches.
import FeedSearch.Proofs.ConservedCounts

namespace FeedSearch.Search

open Fetch

/-! ## Members by name -/

namespace Coordinator

theorem member?_of_mem {c : Coordinator} (hnames : c.orchestrator.names.Nodup) {m : Member}
    (hm : m ∈ c.orchestrator.members) : c.member? m.adapter.name = some m := by
  unfold member?
  cases hfound : c.orchestrator.members.find? (·.adapter.name == m.adapter.name) with
  | none => simpa using List.find?_eq_none.mp hfound m hm
  | some n =>
    have hname : n.adapter.name = m.adapter.name := eq_of_beq (List.find?_some hfound :)
    rw [List.inj_on_of_nodup_map hnames (List.mem_of_find?_eq_some hfound) hm hname]

def withMembers (c : Coordinator) (members : List Member) : Coordinator :=
  { c with orchestrator := { c.orchestrator with members } }

def withClock (c : Coordinator) (clock : Clock) : Coordinator := { c with clock }

@[simp] theorem withField_field (c : Coordinator) (f : Field) : (c.withField f).field = f := rfl

@[simp] theorem withField_withField (c : Coordinator) (f f' : Field) :
    (c.withField f).withField f' = c.withField f' := rfl

/-- A member takes the place of the one of its name. -/
theorem withMember_eq {c : Coordinator} (hnames : c.orchestrator.names.Nodup)
    {before after : List Member} {m m' : Member}
    (hmembers : c.orchestrator.members = before ++ m :: after) (hadapter : m'.adapter = m.adapter) :
    c.withMember m' = c.withMembers (before ++ m' :: after) := by
  have hother : ∀ n ∈ before ++ after,
      (if n.adapter.name == m'.adapter.name then m' else n) = n := by
    intro n hn
    have hne : n.adapter.name ≠ m'.adapter.name := by
      rw [hadapter]
      unfold Orchestrator.names at hnames
      rw [hmembers, List.map_append, List.map_cons, List.nodup_middle, ← List.map_append] at hnames
      exact fun he => (List.nodup_cons.mp hnames).1 (he ▸ List.mem_map_of_mem hn)
    rw [if_neg (by simpa using hne)]
  have hself : (if m.adapter.name == m'.adapter.name then m' else m) = m' := by
    rw [hadapter, beq_self_eq_true]
    rfl
  unfold withMember withMembers
  rw [hmembers, List.map_append, List.map_cons, hself,
    List.map_congr_left fun n hn => hother n (List.mem_append_left _ hn),
    List.map_congr_left fun n hn => hother n (List.mem_append_right _ hn), List.map_id',
    List.map_id']

/-- Nothing that a search does changes the names of the members. -/
theorem move_names (c : Coordinator) (cancel : Cancel) (s : Standing) (m : Move) :
    (c.move cancel s m).2.1.orchestrator.names = c.orchestrator.names := by
  cases m with
  | go =>
    rcases s with stage | ⟨r, uncalled, inAir, merge⟩
    · have hstep (hstage : ∀ r, stage ≠ .fetching r) :
          (c.step cancel stage).2.orchestrator.names = c.orchestrator.names :=
        (step_exchange c cancel hstage).names
      cases stage with
      | fetching r => rfl
      | _ => exact hstep nofun
    · rcases uncalled with _ | ⟨name, uncalled⟩
      · rcases inAir with _ | ⟨l, inAir⟩
        · exact (result_exchange c r merge merge.result).names
        · rfl
      · cases hm : c.member? name with
        | none =>
          simp only [move, go, hm]
        | some m =>
          simp only [move, go, hm]
          exact withMember_names c _
  | land place =>
    rcases s with stage | ⟨r, uncalled, inAir, merge⟩
    · rfl
    · simp only [move, endOne]
      split
      · rfl
      · split
        · rfl
        · rfl

end Coordinator

/-! ## What sessions can come to -/

namespace Session

theorem play_append (w : Session) (acts acts' : List Act) :
    w.play (acts ++ acts') = (w.play acts).play acts' := List.foldl_append

theorem act_names (w : Session) (a : Act) :
    (w.act a).shared.orchestrator.names = w.shared.orchestrator.names := by
  cases a with
  | start r cancel => rfl
  | change store cache clock breakers reply => exact List.map_map
  | move number m =>
    cases hs : w.pursuits[number]? with
    | none => simp only [act, hs]
    | some s =>
      rw [act_move hs]
      exact w.shared.move_names s.cancel s.standing m

theorem play_names (w : Session) (acts : List Act) :
    (w.play acts).shared.orchestrator.names = w.shared.orchestrator.names := by
  induction acts generalizing w with
  | nil => rfl
  | cons a acts ih => exact (ih (w.act a)).trans (act_names w a)

/-- Where no two members have one name, the searches of a session can come from one standing to
another. -/
def Leads (c : Coordinator) (pursuits : List Pursuit) (c' : Coordinator)
    (pursuits' : List Pursuit) : Prop :=
  c.orchestrator.names.Nodup → ∀ books, ∃ acts books',
    play ⟨c, pursuits, books⟩ acts = ⟨c', pursuits', books'⟩

namespace Leads

variable {c c' c'' : Coordinator} {pursuits pursuits' pursuits'' : List Pursuit}

theorem refl (c : Coordinator) (pursuits : List Pursuit) : Leads c pursuits c pursuits :=
  fun _ books => ⟨[], books, rfl⟩

theorem trans (h : Leads c pursuits c' pursuits') (h' : Leads c' pursuits' c'' pursuits'') :
    Leads c pursuits c'' pursuits'' := by
  intro hnames books
  obtain ⟨acts, books', hplay⟩ := h hnames books
  have hnames' : c'.orchestrator.names.Nodup := by
    have hkept := play_names ⟨c, pursuits, books⟩ acts
    rw [hplay] at hkept
    rwa [hkept]
  obtain ⟨acts', books'', hplay'⟩ := h' hnames' books'
  refine ⟨acts ++ acts', books'', ?_⟩
  rw [play_append, hplay, hplay']

theorem start (c : Coordinator) (pursuits : List Pursuit) (r : Request) (cancel : Cancel) :
    Leads c pursuits c (pursuits ++ [⟨cancel, .staged (.lookup (normalize c.limits r))⟩]) :=
  fun _ books => ⟨[.start r cancel], books, rfl⟩

theorem names (h : Leads c pursuits c' pursuits') (hnames : c.orchestrator.names.Nodup) :
    c'.orchestrator.names = c.orchestrator.names := by
  obtain ⟨acts, books, hplay⟩ := h hnames .empty
  have hkept := play_names ⟨c, pursuits, .empty⟩ acts
  rwa [hplay] at hkept

/-- Time passes in any way. -/
theorem wait (c : Coordinator) (pursuits : List Pursuit) (clock : Clock) :
    Leads c pursuits (c.withClock clock) pursuits := by
  intro hnames books
  let reply (name : String) : Call → Reply :=
    ((c.member? name).map (·.adapter.reply)).getD fun _ => ⟨none, .crash, false⟩
  have hreply : ∀ m ∈ c.orchestrator.members,
      ({ m with adapter := { m.adapter with reply := reply m.adapter.name } } : Member) = m := by
    intro m hm
    have hsame : reply m.adapter.name = m.adapter.reply := by
      simp only [reply, Coordinator.member?_of_mem hnames hm, Option.map_some, Option.getD_some]
    rw [hsame]
  refine ⟨[.change c.store c.cache clock c.orchestrator.breakers reply], books, ?_⟩
  simp only [play, List.foldl_cons, List.foldl_nil, act, List.map_congr_left hreply, List.map_id',
    Coordinator.withClock]

end Leads

/-- One search can come from one standing to another, whatever other searches there are, and these
stay where they are. -/
def Comes (cancel : Cancel) (c : Coordinator) (s : Standing) (c' : Coordinator) (s' : Standing) :
    Prop :=
  ∀ before after : List Pursuit,
    Leads c (before ++ ⟨cancel, s⟩ :: after) c' (before ++ ⟨cancel, s'⟩ :: after)

namespace Comes

variable {cancel : Cancel} {c c' c'' : Coordinator} {s s' s'' : Standing}

theorem refl (cancel : Cancel) (c : Coordinator) (s : Standing) : Comes cancel c s c s :=
  fun _ _ => .refl _ _

theorem trans (h : Comes cancel c s c' s') (h' : Comes cancel c' s' c'' s'') :
    Comes cancel c s c'' s'' :=
  fun before after => (h before after).trans (h' before after)

theorem names (h : Comes cancel c s c' s') (hnames : c.orchestrator.names.Nodup) :
    c'.orchestrator.names = c.orchestrator.names := (h [] []).names hnames

theorem wait (cancel : Cancel) (c : Coordinator) (s : Standing) (clock : Clock) :
    Comes cancel c s (c.withClock clock) s :=
  fun _ _ => .wait _ _ _

theorem move (cancel : Cancel) (c : Coordinator) (s : Standing) (m : Move) :
    Comes cancel c s (c.move cancel s m).2.1 (c.move cancel s m).1 := by
  intro before after _ books
  refine ⟨[.move before.length m], books.append (c.move cancel s m).2.2, ?_⟩
  have hs : (before ++ ⟨cancel, s⟩ :: after)[before.length]? = some ⟨cancel, s⟩ := by simp
  rw [play, List.foldl_cons, List.foldl_nil, act_move hs]
  simp

theorem of_move {m : Move} {b : Books} (h : c.move cancel s m = (s', c', b)) :
    Comes cancel c s c' s' := by
  have hmove := move cancel c s m
  rwa [h] at hmove

/-- What one search does in a session. -/
theorem leads {pursuits : List Pursuit} {number : Nat} (h : Comes cancel c s c' s')
    (hs : pursuits[number]? = some ⟨cancel, s⟩) :
    Leads c pursuits c' (pursuits.set number ⟨cancel, s'⟩) := by
  obtain ⟨hlt, hat⟩ := List.getElem?_eq_some_iff.mp hs
  have hsplit : pursuits.take number ++ ⟨cancel, s⟩ :: pursuits.drop (number + 1) = pursuits := by
    rw [← hat, List.cons_getElem_drop_succ, List.take_append_drop]
  have hled := h (pursuits.take number) (pursuits.drop (number + 1))
  rw [List.set_eq_take_append_cons_drop, if_pos hlt]
  rwa [hsplit] at hled

/-! ## Fetches -/

section Fetches

variable {r : Request} {uncalled : List String} {inAir : List Landing} {merge : Merge}

/-- The calls of a row of members start, one after another. Some are left out only after a crash. -/
theorem calls (cancel : Cancel) (r : Request) (merge : Merge) (rest : List Member) (c : Coordinator)
    (before : List Member) (inAir : List Landing)
    (hmembers : c.orchestrator.members = before ++ rest) (hnames : c.orchestrator.names.Nodup) :
    let started := startAll c.orchestrator.deadline (Coordinator.query r cancel) rest c.field
    ∃ uncalled : List String, (uncalled = [] ∨ ∃ l ∈ started.1, l.outcome.isCrash = true) ∧
      Comes cancel c (.calling r (rest.map (·.adapter.name)) inAir merge)
        ((c.withMembers (before ++ started.2.1)).withField started.2.2)
        (.calling r uncalled (inAir ++ started.1) merge) := by
  induction rest generalizing c before inAir with
  | nil =>
    have hsame : (c.withMembers (before ++ [])).withField c.field = c := by
      rw [← hmembers]
      rfl
    refine ⟨[], Or.inl rfl, ?_⟩
    simp only [startAll, List.append_nil] at hsame ⊢
    rw [hsame]
    exact refl _ _ _
  | cons m rest ih =>
    have hm : c.member? m.adapter.name = some m :=
      Coordinator.member?_of_mem hnames (by simp [hmembers])
    rcases hs : start c.orchestrator.deadline (Coordinator.query r cancel) m c.field with ⟨l, m', f⟩
    have hadapter : m'.adapter = m.adapter := by
      have hserved := start_served c.orchestrator.deadline (Coordinator.query r cancel) m c.field
      rw [hs] at hserved
      exact hserved.adapter
    have hcall : Comes cancel c (.calling r ((m :: rest).map (·.adapter.name)) inAir merge)
        ((c.withMembers (before ++ m' :: rest)).withField f)
        (.calling r (rest.map (·.adapter.name)) (inAir ++ [l]) merge) := by
      refine of_move (m := .go) (b := { Books.empty with approaches := [c.approach cancel r m] }) ?_
      simp only [Coordinator.move, Coordinator.go, List.map_cons, hm, Coordinator.call, hs,
        Coordinator.withMember_eq hnames hmembers hadapter]
    simp only [startAll, hs]
    split
    · rename_i hcrash
      refine ⟨rest.map (·.adapter.name), Or.inr ⟨l, List.mem_singleton_self l, ?_⟩, hcall⟩
      exact (Bool.and_eq_true_iff.mp hcrash).2
    · obtain ⟨uncalled, hleft, hrest⟩ := ih ((c.withMembers (before ++ m' :: rest)).withField f)
        (before ++ [m']) (inAir ++ [l]) (by simp [Coordinator.withMembers, Coordinator.withField])
        ((hcall.names hnames).symm ▸ hnames)
      have hboth := hcall.trans hrest
      simp only [List.append_assoc, List.singleton_append] at hboth
      refine ⟨uncalled, hleft.imp_right ?_, hboth⟩
      rintro ⟨n, hn, hcrash⟩
      exact ⟨n, List.mem_cons_of_mem _ hn, hcrash⟩

/-- A call ends at a time of its own. -/
theorem land {place : Nat} {l : Landing} (hl : inAir[place]? = some l)
    (hcalm : l.outcome.isCrash = false) (clock : Clock) :
    Comes cancel c (.calling r uncalled inAir merge)
      (c.withField (Fetch.land c.field l clock.running))
      (.calling r uncalled (inAir.eraseIdx place) (merge.add l)) := by
  have hland : Comes cancel (c.withClock clock) (.calling r uncalled inAir merge)
      ((c.withClock clock).landNow l)
      (.calling r uncalled (inAir.eraseIdx place) (merge.add l)) := by
    refine of_move (m := .land place) (b := .empty) ?_
    simp only [Coordinator.move, Coordinator.endOne, hl, hcalm]
    rfl
  have hback : ((c.withClock clock).landNow l).withClock c.clock =
      c.withField (Fetch.land c.field l clock.running) := by
    simp only [Coordinator.landNow, Coordinator.withField, Coordinator.withClock, Coordinator.field,
      Fetch.land]
    cases l.outcome <;> rfl
  exact hback ▸ ((wait cancel c _ clock).trans hland).trans (wait cancel _ _ c.clock)

/-- The calls in the air end in any order, each at its time, or the first crash ends the search. -/
theorem landings (cancel : Cancel) (r : Request) (uncalled : List String) (start : Clock)
    (ordered : List Landing) (c : Coordinator) (inAir : List Landing) (merge : Merge)
    (hperm : inAir.Perm ordered) :
    Comes cancel c (.calling r uncalled inAir merge)
      (c.withField ((beforeCrash ordered).foldl
        (fun f l => Fetch.land f l (start.pass l.millis).running) c.field))
      (if ordered.any (·.outcome.isCrash) then .staged (.finished .crashed)
        else .calling r uncalled [] (ordered.foldl Merge.add merge)) := by
  induction ordered generalizing c inAir merge with
  | nil =>
    rw [hperm.eq_nil]
    exact refl _ _ _
  | cons l rest ih =>
    obtain ⟨place, hplace, rfl⟩ := List.getElem_of_mem (hperm.mem_iff.mpr List.mem_cons_self)
    have hl := List.getElem?_eq_getElem hplace
    cases hcrash : inAir[place].outcome.isCrash with
    | true =>
      have hland : Comes cancel c (.calling r uncalled inAir merge) c
          (.staged (.finished .crashed)) := by
        refine of_move (m := .land place) (b := .empty) ?_
        simp only [Coordinator.move, Coordinator.endOne, hl, hcrash]
        rfl
      simp only [beforeCrash, List.takeWhile_cons, hcrash, List.any_cons]
      exact hland
    | false =>
      have hrest : (inAir.eraseIdx place).Perm rest :=
        ((List.getElem_cons_eraseIdx_perm hplace).trans hperm).cons_inv
      have hland : Comes cancel c (.calling r uncalled inAir merge) _ _ :=
        land hl hcrash (start.pass inAir[place].millis)
      simpa [beforeCrash, List.takeWhile_cons, hcrash] using hland.trans (ih _ _ _ hrest)

/-- A whole fetch: all calls start, they end in the order of time, and the search goes on with what
they have brought. -/
theorem fetch (cancel : Cancel) (c : Coordinator) (r : Request) :
    Comes cancel c (.staged (.fetching r)) (c.stepFetch cancel r).2
      (.staged (c.stepFetch cancel r).1) := by
  intro before after hnames
  suffices h : Comes cancel c (.staged (.fetching r)) (c.stepFetch cancel r).2
      (.staged (c.stepFetch cancel r).1) from h before after hnames
  have hbegin : Comes cancel c (.staged (.fetching r)) c
      (.calling r c.orchestrator.names [] .empty) :=
    of_move (m := .go) (b := { Books.empty with fetches := 1 }) rfl
  obtain ⟨uncalled, hleft, hcalls⟩ :=
    calls cancel r .empty c.orchestrator.members c [] [] rfl hnames
  simp only [List.nil_append] at hcalls
  unfold Coordinator.stepFetch Orchestrator.fetchAll
  have hfield : c.field = ⟨c.orchestrator.breakers, c.clock, c.metrics⟩ := rfl
  rw [← hfield]
  rcases hs : startAll c.orchestrator.deadline (Coordinator.query r cancel) c.orchestrator.members
    c.field with ⟨started, members, f⟩
  rw [hs] at hleft hcalls
  have hlandings := landings cancel r uncalled c.clock (inOrder started)
    ((c.withMembers members).withField f) started .empty (List.mergeSort_perm started _).symm
  simp only [Coordinator.withField_field, Coordinator.withField_withField] at hlandings
  have hended := ((hbegin.trans hcalls).trans hlandings).trans
    (wait cancel _ _ (((beforeCrash (inOrder started)).foldl
      (fun f l => Fetch.land f l (c.clock.pass l.millis).running) f).clock.pass
        (elapsed (inOrder started))))
  unfold resultOf
  by_cases hcrash : (inOrder started).any (·.outcome.isCrash) = true
  · rw [if_pos hcrash] at hended
    simp only [if_pos hcrash]
    exact hended
  · have hall : uncalled = [] := by
      rcases hleft with hleft | ⟨l, hl, hlcrash⟩
      · exact hleft
      · exact absurd (List.any_eq_true.mpr ⟨l, mem_inOrder.mpr hl, hlcrash⟩) hcrash
    rw [if_neg hcrash, hall] at hended
    simp only [if_neg hcrash]
    exact hended.trans (of_move (m := .go) (b := .empty) rfl)

end Fetches

/-! ## Searches -/

/-- A stage of a search, whatever it takes. -/
theorem step (cancel : Cancel) (c : Coordinator) (stage : Stage) :
    Comes cancel c (.staged stage) (c.step cancel stage).2 (.staged (c.step cancel stage).1) := by
  cases stage with
  | fetching r => exact fetch cancel c r
  | _ => exact of_move (m := .go) rfl

theorem run (cancel : Cancel) (c : Coordinator) (stage : Stage) (n : Nat) :
    Comes cancel c (.staged stage) (c.run cancel stage n).2 (.staged (c.run cancel stage n).1) := by
  induction n generalizing c stage with
  | zero => exact refl _ _ _
  | succ n ih => exact (step cancel c stage).trans (ih _ _)

end Comes

/-- A search, from its start to its outcome. -/
theorem Leads.search (c : Coordinator) (pursuits : List Pursuit) (r : Request) (cancel : Cancel) :
    Leads c pursuits (c.search r cancel).2
      (pursuits ++ [⟨cancel, .staged (.finished (c.search r cancel).1)⟩]) := by
  have hrun := Comes.run cancel c (.lookup (normalize c.limits r)) Coordinator.maxStages
  rw [Coordinator.run_finished c cancel (.lookup (normalize c.limits r))
    (n := Coordinator.maxStages) (Nat.le_refl _)] at hrun
  exact (Leads.start c pursuits r cancel).trans (hrun pursuits [])

end Session

end FeedSearch.Search
