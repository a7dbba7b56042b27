-- Which calls a breaker rejects, over every run. An open breaker stays open
-- while calls from before it opened go on failing, and each of their failures
-- counts as the latest one.
import FeedSearch.Proofs.BreakerRuns

namespace FeedSearch

open BreakerLog

/-! ## From an opening on -/

namespace BreakerLog

variable {c : BreakerConfig} {earlier : BreakerLog} {o : LogLine}

/-- What has been noted since the latest failure. -/
def sinceFailure (log : BreakerLog) : BreakerLog := log.takeWhile (!·.note.isFailure)

theorem sinceFailure_cons (l : LogLine) (log : BreakerLog) :
    sinceFailure (l :: log) = if l.note.isFailure then [] else l :: sinceFailure log := by
  unfold sinceFailure
  rw [List.takeWhile_cons]
  cases l.note.isFailure <;> rfl

theorem lastFailure?_append (ho : o.note.isFailure = true) (since : BreakerLog) :
    lastFailure? (since ++ o :: earlier) = lastFailure? (since ++ [o]) := by
  induction since with
  | nil => simp [lastFailure?_cons, ho]
  | cons l since ih => simp [lastFailure?_cons, ih]

/-- A note that the trial goes on from counts if it is a failure. -/
theorem failuresOnTrial_cons {l : LogLine} {log : BreakerLog} (hl : l.before = .halfOpen)
    (hnone : log.failuresOnTrial = 0) :
    failuresOnTrial (l :: log) = if l.note.isFailure then 1 else 0 := by
  have hstays : l.enters .halfOpen = false := by simp [LogLine.enters, hl]
  rw [failuresOnTrial, countSince_cons, hstays, ← failuresOnTrial, hnone]
  simp

/-- The first failure on trial ends it. -/
theorem Lawful.no_failure_on_trial {log : BreakerLog} (h : Lawful c log)
    (hs : log.state = .halfOpen) : log.failuresOnTrial = 0 := by
  induction log with
  | nil => cases hs
  | cons l log ih =>
    obtain ⟨hl, hlog⟩ := h
    have hafter : l.after = .halfOpen := hs
    by_cases hbefore : l.before = .halfOpen
    · have hcount := failuresOnTrial_cons hbefore (ih hlog (hl.before ▸ hbefore))
      by_cases hfailure : l.note.isFailure = true
      · have hopens := (hl.ofHalfOpen hbefore).2.mpr ⟨hfailure, hcount.trans (if_pos hfailure)⟩
        rw [hafter] at hopens
        cases hopens
      · exact hcount.trans (if_neg hfailure)
    · have henters : l.enters .halfOpen = true := LogLine.enters_iff.mpr ⟨hbefore, hafter⟩
      rw [failuresOnTrial, countSince_cons, henters, if_pos rfl]

end BreakerLog

namespace LogLine.Follows

variable {c : BreakerConfig} {earlier : BreakerLog} {l : LogLine}

/-- Only a failure opens a breaker. -/
theorem isFailure_of_enters (h : l.Follows c earlier) (ho : l.enters .opened = true) :
    l.note.isFailure = true := by
  obtain ⟨hne, hafter⟩ := LogLine.enters_iff.mp ho
  cases hb : l.before with
  | closed => exact ((h.ofClosed hb).1.mp hafter).1
  | halfOpen => exact ((h.ofHalfOpen hb).2.mp hafter).1
  | opened => exact absurd hb hne

/-- A call that is admitted while the breaker is open comes after the cool-down. -/
theorem cooled_of_admitted (h : l.Follows c earlier) {call : Nat} (hn : l.note = .admitted call)
    (hb : l.before = .opened) {failed : Instant} (hlast : earlier.lastFailure? = some failed) :
    failed + c.resetTimeout.toNanos ≤ l.time := by
  refine Nat.le_of_not_lt fun hearly => ?_
  have hrejected := (h.starts call (Or.inl hn)).mpr ⟨hb, failed, hlast, hearly⟩
  rw [hn] at hrejected
  cases hrejected

/-- What is neither an admission nor a success nor a reset leaves an open breaker open. -/
theorem stays_opened (h : l.Follows c earlier) (hb : l.before = .opened)
    (hadmission : l.note.isAdmission = false) (hclears : l.note.clears = false) :
    l.after = .opened := by
  obtain ⟨htrial, hclosed⟩ := h.ofOpened hb
  cases ha : l.after with
  | closed => simp [hclosed.mp ha] at hclears
  | halfOpen => simp [htrial.mp ha] at hadmission
  | opened => rfl

end LogLine.Follows

/-- How a breaker that has opened stands as long as nothing has closed it: it is still open, or a
call has been admitted after the cool-down of the latest failure. -/
structure SinceOpening (c : BreakerConfig) (opening : LogLine) (since : BreakerLog)
    (state : BreakerState) (failed : Instant) : Prop where
  last : lastFailure? (since ++ [opening]) = some failed
  notBefore : opening.time ≤ failed
  state : state = .opened ∨ state = .halfOpen ∧ ∃ e ∈ sinceFailure since, ∃ call,
    e.Starts call ∧ failed + c.resetTimeout.toNanos ≤ e.time

namespace SinceOpening

variable {c : BreakerConfig} {o e : LogLine} {since earlier : BreakerLog} {failed : Instant}

theorem opening (ho : o.Follows c earlier) (henters : o.enters .opened = true) :
    SinceOpening c o [] o.after o.time := by
  have hfailure := ho.isFailure_of_enters henters
  refine ⟨?_, Nat.le_refl _, Or.inl ?_⟩
  · simp [lastFailure?_cons, hfailure]
  · exact (LogLine.enters_iff.mp henters).2

theorem lastFailure {state : BreakerState} (h : SinceOpening c o since state failed)
    (earlier : BreakerLog) (ho : o.note.isFailure = true) :
    lastFailure? (since ++ o :: earlier) = some failed :=
  (lastFailure?_append ho since).trans h.last

/-- A failure opens the breaker anew if it was on trial. -/
theorem failure (h : SinceOpening c o since (BreakerLog.state (since ++ o :: earlier)) failed)
    (he : e.Follows c (since ++ o :: earlier)) (hlog : Lawful c (since ++ o :: earlier))
    {call : Nat} (hn : e.note = .failed call) : SinceOpening c o (e :: since) e.after e.time := by
  have hfailure : e.note.isFailure = true := by rw [hn]; rfl
  refine ⟨?_, he.time o (by simp), Or.inl ?_⟩
  · simp [lastFailure?_cons, hfailure]
  · rcases h.state with hopen | ⟨htrial, _⟩
    · exact he.stays_opened (he.before.trans hopen) (by rw [hn]; rfl) (by rw [hn]; rfl)
    · have hb : e.before = .halfOpen := he.before.trans htrial
      have hfirst := failuresOnTrial_cons hb (hlog.no_failure_on_trial htrial)
      exact (he.ofHalfOpen hb).2.mpr ⟨hfailure, hfirst.trans (if_pos hfailure)⟩

/-- A breaker rejects calls only while it is open, and stays so. -/
theorem rejection (h : SinceOpening c o since (BreakerLog.state (since ++ o :: earlier)) failed)
    (he : e.Follows c (since ++ o :: earlier)) {call : Nat} (hn : e.note = .rejected call) :
    SinceOpening c o (e :: since) e.after failed := by
  have hopen : e.before = .opened := ((he.starts call (Or.inr hn)).mp hn).1
  refine ⟨?_, h.notBefore, Or.inl ?_⟩
  · simpa [lastFailure?_cons, hn, BreakerNote.isFailure] using h.last
  · exact he.stays_opened hopen (by rw [hn]; rfl) (by rw [hn]; rfl)

/-- A breaker that admits a call is on trial after it. -/
theorem admission (h : SinceOpening c o since (BreakerLog.state (since ++ o :: earlier)) failed)
    (he : e.Follows c (since ++ o :: earlier)) (ho : o.note.isFailure = true) {call : Nat}
    (hn : e.note = .admitted call) : SinceOpening c o (e :: since) e.after failed := by
  have hlast := h.lastFailure earlier ho
  refine ⟨?_, h.notBefore, Or.inr ?_⟩
  · simpa [lastFailure?_cons, hn, BreakerNote.isFailure] using h.last
  · rw [sinceFailure_cons, hn]
    rcases h.state with hopen | ⟨htrial, k, hk, hstarts⟩
    · have hb : e.before = .opened := he.before.trans hopen
      refine ⟨(he.ofOpened hb).1.mpr (by rw [hn]; rfl), e, .head _, call, Or.inl hn, ?_⟩
      exact he.cooled_of_admitted hn hb hlast
    · have hb : e.before = .halfOpen := he.before.trans htrial
      obtain ⟨hcloses, hopens⟩ := he.ofHalfOpen hb
      refine ⟨?_, k, .tail _ hk, hstarts⟩
      cases ha : e.after with
      | closed => simpa [hn, BreakerNote.isSuccess] using hcloses.mp ha
      | opened => simpa [hn, BreakerNote.isFailure] using hopens.mp ha
      | halfOpen => rfl

/-- Nothing is admitted until the breaker has cooled down from the latest failure. -/
theorem rejects (h : SinceOpening c o since (BreakerLog.state (since ++ o :: earlier)) failed)
    (he : e.Follows c (since ++ o :: earlier)) (ho : o.note.isFailure = true) {call : Nat}
    (hstarts : e.Starts call) (htime : e.time < failed + c.resetTimeout.toNanos) :
    e.note = .rejected call := by
  have hlast := h.lastFailure earlier ho
  refine (he.starts call hstarts).mpr ⟨he.before.trans ?_, failed, hlast, htime⟩
  refine h.state.resolve_right fun ⟨_, k, hk, _, _, hover⟩ => ?_
  have hle : k.time ≤ e.time :=
    he.time k (List.mem_append_left _ ((List.takeWhile_prefix _).subset hk))
  exact absurd htime (Nat.not_lt.mpr (Nat.le_trans hover hle))

/-- The first call to start after that is admitted and puts the breaker on trial. -/
theorem admits (h : SinceOpening c o since (BreakerLog.state (since ++ o :: earlier)) failed)
    (he : e.Follows c (since ++ o :: earlier)) (ho : o.note.isFailure = true) {call : Nat}
    (hstarts : e.Starts call)
    (hfirst : ∀ k ∈ sinceFailure since, ∀ other, k.Starts other →
      k.time < failed + c.resetTimeout.toNanos)
    (hover : failed + c.resetTimeout.toNanos ≤ e.time) :
    e.note = .admitted call ∧ e.before = .opened ∧ e.after = .halfOpen := by
  have hlast := h.lastFailure earlier ho
  have hb : e.before = .opened := by
    refine he.before.trans (h.state.resolve_right ?_)
    rintro ⟨_, k, hk, other, hother, hlate⟩
    exact absurd hlate (Nat.not_le.mpr (hfirst k hk other hother))
  have hn : e.note = .admitted call := by
    refine hstarts.resolve_right fun hn => ?_
    obtain ⟨_, latest, hlatest, htime⟩ := (he.starts call hstarts).mp hn
    cases hlast.symm.trans hlatest
    exact absurd hover (Nat.not_le.mpr htime)
  exact ⟨hn, hb, (he.ofOpened hb).1.mpr (by rw [hn]; rfl)⟩

end SinceOpening

/-- Line by line from the opening on, as long as nothing clears the counts. -/
theorem BreakerLog.Lawful.since_opening {c : BreakerConfig} {since earlier : BreakerLog}
    {o : LogLine} (h : Lawful c (since ++ o :: earlier)) (ho : o.enters .opened = true)
    (hclears : ∀ e ∈ since, e.note.clears = false) :
    ∃ failed, SinceOpening c o since (BreakerLog.state (since ++ o :: earlier)) failed := by
  induction since with
  | nil => exact ⟨o.time, .opening h.1 ho⟩
  | cons e since ih =>
    obtain ⟨he, hlog⟩ : e.Follows c (since ++ o :: earlier) ∧ Lawful c (since ++ o :: earlier) := h
    obtain ⟨failed, hsince⟩ := ih hlog fun k hk => hclears k (.tail _ hk)
    have hfailure := hlog.follows.isFailure_of_enters ho
    have hnot : e.note.clears = false := hclears e (.head _)
    cases hn : e.note with
    | admitted call => exact ⟨failed, hsince.admission he hfailure hn⟩
    | rejected call => exact ⟨failed, hsince.rejection he hn⟩
    | failed call => exact ⟨e.time, hsince.failure he hlog hn⟩
    | succeeded call => simp [hn, BreakerNote.clears] at hnot
    | reset => simp [hn, BreakerNote.clears] at hnot

/-! ## The law -/

namespace BreakerRun

/-- A call is rejected, and its operation not invoked, exactly if the breaker is open and the latest
failure is less long ago than the reset timeout. So after an opening, as long as no call succeeds
and nobody resets the breaker, nothing is admitted for that long, each failure starts the time anew,
and the first call to start when it is over is admitted and puts the breaker on trial. -/
theorem an_open_breaker_admits_nothing_until_it_has_cooled_down (c : BreakerConfig) (made : Instant)
    (acts : List BreakerAct) :
    let w := (fresh made).play c acts
    (∀ call, call < w.started ↔ ∃ l ∈ w.log, l.Starts call) ∧
    (∀ later l earlier call, w.log = later ++ l :: earlier → l.Starts call →
      (l.note = .rejected call ↔ l.before = .opened ∧ Cooling c earlier l.time) ∧
      (call ∈ w.invoked ↔ l.note = .admitted call)) ∧
    ∀ later l since o earlier call, w.log = later ++ l :: (since ++ o :: earlier) →
      l.Starts call → o.enters .opened = true → (∀ e ∈ since, e.note.clears = false) →
      (l.time < o.time + c.resetTimeout.toNanos → l.note = .rejected call) ∧
      ∃ failed, lastFailure? (since ++ [o]) = some failed ∧
        (l.time < failed + c.resetTimeout.toNanos → l.note = .rejected call) ∧
        ((∀ e ∈ sinceFailure since, ∀ other, e.Starts other →
            e.time < failed + c.resetTimeout.toNanos) →
          failed + c.resetTimeout.toNanos ≤ l.time →
          l.note = .admitted call ∧ l.before = .opened ∧ l.after = .halfOpen) := by
  intro w
  have hsound : w.Sound c := (Sound.fresh c made).play acts
  refine ⟨hsound.numbered, ?_, ?_⟩
  · intro later l earlier call hlog hstarts
    have hl : l ∈ w.log := hlog ▸ List.mem_append_right later (.head _)
    refine ⟨(Lawful.follows (hlog ▸ hsound.lawful)).starts call hstarts,
      (hsound.invoked call).trans ⟨fun hadmitted => ?_, fun hn => ⟨l, hl, hn⟩⟩⟩
    exact hstarts.resolve_right fun hn => hsound.refused l hl call hn hadmitted
  · intro later l since o earlier call hlog hstarts ho hclears
    obtain ⟨hl, hbefore⟩ : Lawful c (l :: (since ++ o :: earlier)) :=
      (hlog ▸ hsound.lawful).suffix
    obtain ⟨failed, hsince⟩ := hbefore.since_opening ho hclears
    have hfailure := hbefore.follows.isFailure_of_enters ho
    have hcool := hsince.rejects hl hfailure hstarts
    refine ⟨fun htime => hcool ?_, failed, hsince.last, hcool, hsince.admits hl hfailure hstarts⟩
    exact Nat.lt_of_lt_of_le htime (Nat.add_le_add_right hsince.notBefore _)

/-- Two calls under way fail ten seconds apart. The first failure opens the breaker, and it takes
thirty seconds from the second one until a call is admitted. -/
theorem a_late_failure_starts_the_cool_down_anew :
    let c : BreakerConfig := { maxFailures := 1, resetTimeout := .ofSeconds 30 }
    let seconds := 1000000000
    let w := (fresh 0).play c
      [.start, .start, .finish 0 false, .wait (10 * seconds), .finish 1 false,
        .wait (25 * seconds), .start, .wait (5 * seconds), .start]
    ∃ trial refused late opening earlier, w.log = trial :: refused :: late :: opening :: earlier ∧
      opening.enters .opened = true ∧ opening.time = 0 ∧
      late.note = .failed 1 ∧ late.time = 10 * seconds ∧
      refused.note = .rejected 2 ∧ refused.time = 35 * seconds ∧
      trial.note = .admitted 3 ∧ trial.after = .halfOpen ∧ trial.time = 40 * seconds := by
  intro c seconds w
  let opening : LogLine := ⟨.failed 0, 0, .closed, .opened⟩
  let late : LogLine := ⟨.failed 1, 10 * seconds, .opened, .opened⟩
  let refused : LogLine := ⟨.rejected 2, 35 * seconds, .opened, .opened⟩
  let trial : LogLine := ⟨.admitted 3, 40 * seconds, .opened, .halfOpen⟩
  let earlier : BreakerLog :=
    [⟨.admitted 1, 0, .closed, .closed⟩, ⟨.admitted 0, 0, .closed, .closed⟩]
  have hlog : w.log = trial :: refused :: late :: opening :: earlier := by decide +kernel
  obtain ⟨_, _, law⟩ := an_open_breaker_admits_nothing_until_it_has_cooled_down c 0
    [.start, .start, .finish 0 false, .wait (10 * seconds), .finish 1 false,
      .wait (25 * seconds), .start, .wait (5 * seconds), .start]
  obtain ⟨_, failed, hfailed, hcool, _⟩ :=
    law [trial] refused [late] opening earlier 2 hlog (Or.inr rfl) rfl (by decide)
  obtain ⟨_, failed', hfailed', _, hadmitted⟩ :=
    law [] trial [refused, late] opening earlier 3 hlog (Or.inl rfl) rfl (by decide)
  obtain rfl : 10 * seconds = failed := Option.some.inj hfailed
  obtain rfl : 10 * seconds = failed' := Option.some.inj hfailed'
  obtain ⟨hnote, _, hafter⟩ := hadmitted
    (fun e he _ _ => by
      rw [List.mem_singleton.mp he]
      decide +kernel)
    (by decide +kernel)
  exact ⟨trial, refused, late, opening, earlier, hlog, rfl, rfl, rfl, rfl,
    hcool (by decide +kernel), rfl, hnote, hafter, rfl⟩

end BreakerRun

end FeedSearch
