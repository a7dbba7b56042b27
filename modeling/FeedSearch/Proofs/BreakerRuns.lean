-- A breaker over a whole run: calls start, go on side by side and end at any
-- later time or never, and resets come in between. What the breaker takes note
-- of stands in a log, and at any time the log tells the state of the breaker.
import FeedSearch.Proofs.BreakerStates

namespace FeedSearch

/-! ## The log -/

/-- What a breaker takes note of. Calls have numbers. -/
inductive BreakerNote where
  | admitted (call : Nat)
  | rejected (call : Nat)
  | succeeded (call : Nat)
  | failed (call : Nat)
  | reset
  deriving DecidableEq, Repr

namespace BreakerNote

def isAdmission : BreakerNote → Bool
  | .admitted _ => true
  | _ => false

def isSuccess : BreakerNote → Bool
  | .succeeded _ => true
  | _ => false

def isFailure : BreakerNote → Bool
  | .failed _ => true
  | _ => false

/-- Whether failures are counted anew from here on. -/
def clears : BreakerNote → Bool
  | .succeeded _ => true
  | .reset => true
  | _ => false

theorem isAdmission_iff {n : BreakerNote} : n.isAdmission = true ↔ ∃ call, n = .admitted call := by
  cases n <;> simp [isAdmission]

theorem clears_iff {n : BreakerNote} :
    n.clears = true ↔ n = .reset ∨ ∃ call, n = .succeeded call := by
  cases n <;> simp [clears]

end BreakerNote

/-- A note with its time, and the states of the breaker before and after it. -/
structure LogLine where
  note : BreakerNote
  time : Instant
  before : BreakerState
  after : BreakerState
  deriving DecidableEq, Repr

namespace LogLine

/-- A call starts here, admitted or not. -/
def Starts (l : LogLine) (call : Nat) : Prop := l.note = .admitted call ∨ l.note = .rejected call

/-- Whether the breaker comes into a state here. -/
def enters (l : LogLine) (s : BreakerState) : Bool := l.before != s && l.after == s

theorem enters_iff {l : LogLine} {s : BreakerState} :
    l.enters s = true ↔ l.before ≠ s ∧ l.after = s := by
  simp [enters]

end LogLine

/-- All that has been noted, the latest first. -/
abbrev BreakerLog := List LogLine

namespace BreakerLog

/-- The state in which the log leaves a breaker. -/
def state : BreakerLog → BreakerState
  | [] => .closed
  | l :: _ => l.after

/-- The time of the latest failure. -/
def lastFailure? (log : BreakerLog) : Option Instant :=
  (log.find? (·.note.isFailure)).map (·.time)

/-- How many notes of one sort came after the latest line of a kind, or at all if there is no such
line. -/
def countSince (kind : LogLine → Bool) (counted : BreakerNote → Bool) (log : BreakerLog) : Nat :=
  (log.takeWhile (!kind ·)).countP (counted ·.note)

/-- Failures since the latest success or reset, or since the breaker was made. -/
def failuresInRow (log : BreakerLog) : Nat :=
  countSince (·.note.clears) BreakerNote.isFailure log

/-- Successes since the breaker last went on trial. -/
def successesOnTrial (log : BreakerLog) : Nat :=
  countSince (·.enters .halfOpen) BreakerNote.isSuccess log

/-- Failures since the breaker last went on trial. -/
def failuresOnTrial (log : BreakerLog) : Nat :=
  countSince (·.enters .halfOpen) BreakerNote.isFailure log

/-- What had been noted before the breaker last opened. -/
def beforeOpening (log : BreakerLog) : BreakerLog := (log.dropWhile (!·.enters .opened)).tail

def Admitted (log : BreakerLog) (call : Nat) : Prop := ∃ l ∈ log, l.note = .admitted call

/-- The latest failure is less long ago than an open breaker rejects calls. -/
def Cooling (c : BreakerConfig) (log : BreakerLog) (now : Instant) : Prop :=
  ∃ failed, log.lastFailure? = some failed ∧ now < failed + c.resetTimeout.toNanos

theorem lastFailure?_cons (l : LogLine) (log : BreakerLog) :
    lastFailure? (l :: log) = if l.note.isFailure then some l.time else lastFailure? log := by
  unfold lastFailure?
  rw [List.find?_cons]
  cases l.note.isFailure <;> rfl

theorem mem_of_lastFailure? {log : BreakerLog} {failed : Instant}
    (h : log.lastFailure? = some failed) : ∃ l ∈ log, l.time = failed := by
  obtain ⟨l, hl, htime⟩ := Option.map_eq_some_iff.mp h
  exact ⟨l, List.mem_of_find?_eq_some hl, htime⟩

theorem countSince_cons (kind : LogLine → Bool) (counted : BreakerNote → Bool) (l : LogLine)
    (log : BreakerLog) : countSince kind counted (l :: log) =
      if kind l then 0 else countSince kind counted log + if counted l.note then 1 else 0 := by
  unfold countSince
  rw [List.takeWhile_cons]
  cases kind l <;> simp [List.countP_cons]

theorem beforeOpening_cons (l : LogLine) (log : BreakerLog) :
    beforeOpening (l :: log) = if l.enters .opened then log else beforeOpening log := by
  unfold beforeOpening
  rw [List.dropWhile_cons]
  cases l.enters .opened <;> rfl

theorem admitted_cons (l : LogLine) (log : BreakerLog) (call : Nat) :
    Admitted (l :: log) call ↔ l.note = .admitted call ∨ Admitted log call := by
  simp [Admitted]

end BreakerLog

open BreakerLog

/-! ## Runs -/

/-- A breaker at work: the time, how many calls have started, those under way, those whose
operation has been invoked, and the log. -/
structure BreakerRun where
  breaker : Breaker
  now : Instant
  started : Nat
  running : List Nat
  invoked : List Nat
  log : BreakerLog

/-- What can happen: a call starts, a call that is under way ends, somebody resets the breaker, or
time goes by. -/
inductive BreakerAct where
  | start
  | finish (call : Nat) (succeeds : Bool)
  | reset
  | wait (nanos : Nat)

namespace BreakerRun

/-- A breaker that has just been made. -/
def fresh (now : Instant) : BreakerRun :=
  { breaker := .fresh, now, started := 0, running := [], invoked := [], log := [] }

/-- The breaker changes, with a note of why. -/
def noted (w : BreakerRun) (note : BreakerNote) (b : Breaker) : BreakerRun :=
  { w with breaker := b, log := ⟨note, w.now, w.breaker.state, b.state⟩ :: w.log }

/-- A call that is rejected never invokes its operation. One that is not under way cannot end. -/
def act (c : BreakerConfig) (w : BreakerRun) : BreakerAct → BreakerRun
  | .start =>
    let (admitted, b) := w.breaker.enter c w.now
    if admitted then
      { w.noted (.admitted w.started) b with
        started := w.started + 1
        running := w.started :: w.running
        invoked := w.started :: w.invoked }
    else { w.noted (.rejected w.started) b with started := w.started + 1 }
  | .finish call succeeds =>
    if call ∈ w.running then
      let w := { w with running := w.running.erase call }
      if succeeds then w.noted (.succeeded call) w.breaker.onSuccess
      else w.noted (.failed call) (w.breaker.onFailure c w.now)
    else w
  | .reset => w.noted .reset w.breaker.reset
  | .wait nanos => { w with now := w.now + nanos }

/-- All that happens, in order. -/
def play (c : BreakerConfig) (w : BreakerRun) (acts : List BreakerAct) : BreakerRun :=
  acts.foldl (act c) w

end BreakerRun

/-! ## What the log tells of the breaker -/

/-- The breaker is as the log tells. -/
structure Told (c : BreakerConfig) (log : BreakerLog) (b : Breaker) : Prop where
  state : b.state = log.state
  lastFailure : b.lastFailure = log.lastFailure?
  closed : b.state = .closed → b.failures = log.failuresInRow ∧ b.failures < c.limit
  halfOpen : b.state = .halfOpen → b.successes = log.successesOnTrial ∧
    b.successes < Breaker.trialSuccesses ∧ log.failuresOnTrial = 0
  opened : b.state = .opened → log.lastFailure?.isSome

namespace Told

variable {c : BreakerConfig} {log : BreakerLog} {b : Breaker}

theorem fresh (c : BreakerConfig) : Told c [] .fresh :=
  ⟨rfl, rfl, fun _ => ⟨rfl, c.limit_pos⟩, nofun, nofun⟩

/-- A note that neither counts nor clears, and a breaker that stays as it is. -/
theorem stay (h : Told c log b) (call : Nat) (now : Instant) {note : BreakerNote}
    (hnote : note = .admitted call ∨ note = .rejected call) :
    Told c (⟨note, now, b.state, b.state⟩ :: log) b := by
  have hlast : lastFailure? (⟨note, now, b.state, b.state⟩ :: log) = lastFailure? log := by
    rw [lastFailure?_cons]
    rcases hnote with rfl | rfl <;> rfl
  refine ⟨rfl, h.lastFailure.trans hlast.symm, fun hs => ?_, fun hs => ?_, fun hs => ?_⟩
  · obtain ⟨hcount, hlt⟩ := h.closed hs
    refine ⟨?_, hlt⟩
    rw [failuresInRow, countSince_cons]
    rcases hnote with rfl | rfl <;> exact hcount
  · obtain ⟨hcount, hlt, hnone⟩ := h.halfOpen hs
    have henters : (⟨note, now, b.state, b.state⟩ : LogLine).enters .halfOpen = false := by
      simp [LogLine.enters]
    refine ⟨?_, hlt, ?_⟩
    · rw [successesOnTrial, countSince_cons, henters]
      rcases hnote with rfl | rfl <;> exact hcount
    · rw [failuresOnTrial, countSince_cons, henters]
      rcases hnote with rfl | rfl <;> exact hnone
  · rw [hlast]
    exact h.opened hs

theorem start_admitted (h : Told c log b) (call : Nat) {now : Instant} {b' : Breaker}
    (he : b.enter c now = (true, b')) :
    Told c (⟨.admitted call, now, b.state, b'.state⟩ :: log) b' := by
  rcases Breaker.enter_admitted he with ⟨_, rfl⟩ | ⟨hs, _, rfl⟩
  · exact h.stay call now (Or.inl rfl)
  · refine ⟨rfl, h.lastFailure, nofun, fun _ => ?_, nofun⟩
    simp [successesOnTrial, failuresOnTrial, countSince_cons, LogLine.enters, hs,
      Breaker.trialSuccesses]

theorem start_rejected (h : Told c log b) (call : Nat) {now : Instant} {b' : Breaker}
    (he : b.enter c now = (false, b')) :
    Told c (⟨.rejected call, now, b.state, b'.state⟩ :: log) b' := by
  obtain ⟨_, _, rfl⟩ := Breaker.enter_rejected he
  exact h.stay call now (Or.inr rfl)

theorem fail (h : Told c log b) (call : Nat) (now : Instant) :
    Told c (⟨.failed call, now, b.state, (b.onFailure c now).state⟩ :: log)
      (b.onFailure c now) := by
  cases hs : b.state with
  | closed =>
    obtain ⟨hcount, hlt⟩ := h.closed hs
    rw [Breaker.onFailure_closed now hs hlt]
    refine ⟨rfl, rfl, fun hstate => ?_, fun hstate => ?_, fun _ => rfl⟩
    · simp only at hstate
      split at hstate
      · cases hstate
      · rw [failuresInRow, countSince_cons, ← failuresInRow, ← hcount]
        exact ⟨rfl, by simp only; omega⟩
    · simp only at hstate
      split at hstate <;> cases hstate
  | halfOpen =>
    rw [Breaker.onFailure_halfOpen now hs]
    exact ⟨rfl, rfl, nofun, nofun, fun _ => rfl⟩
  | opened =>
    rw [Breaker.onFailure_opened now hs]
    refine ⟨rfl, rfl, fun hstate => ?_, fun hstate => ?_, fun _ => rfl⟩
    · rw [hs] at hstate; cases hstate
    · rw [hs] at hstate; cases hstate

/-- Whatever closes a breaker and clears its counts. -/
theorem clear (h : Told c log b) {note : BreakerNote} (hclears : note.clears = true)
    (hfailure : note.isFailure = false) (now : Instant) :
    Told c (⟨note, now, b.state, b.reset.state⟩ :: log) b.reset := by
  refine ⟨rfl, ?_, fun _ => ⟨?_, c.limit_pos⟩, nofun, nofun⟩
  · rw [lastFailure?_cons, hfailure]
    exact h.lastFailure
  · rw [failuresInRow, countSince_cons, hclears]
    rfl

theorem succeed (h : Told c log b) (call : Nat) (now : Instant) :
    Told c (⟨.succeeded call, now, b.state, b.onSuccess.state⟩ :: log) b.onSuccess := by
  cases hs : b.state with
  | closed =>
    rw [Breaker.onSuccess_closed hs]
    refine ⟨rfl, h.lastFailure, fun _ => ⟨rfl, c.limit_pos⟩, fun hstate => ?_, fun hstate => ?_⟩
    · rw [hs] at hstate; cases hstate
    · rw [hs] at hstate; cases hstate
  | halfOpen =>
    obtain ⟨hcount, hlt, hnone⟩ := h.halfOpen hs
    rw [Breaker.onSuccess_halfOpen hs hlt]
    split
    · rw [← hs]
      exact h.clear rfl rfl now
    · have henters : (⟨.succeeded call, now, .halfOpen, b.state⟩ : LogLine).enters .halfOpen =
          false := rfl
      refine ⟨rfl, h.lastFailure, fun hstate => ?_, fun _ => ⟨?_, ?_, ?_⟩, fun hstate => ?_⟩
      · rw [hs] at hstate; cases hstate
      · rw [successesOnTrial, countSince_cons, henters, ← successesOnTrial, ← hcount]
        rfl
      · simp only; omega
      · rw [failuresOnTrial, countSince_cons, henters, ← failuresOnTrial, hnone]
        rfl
      · rw [hs] at hstate; cases hstate
  | opened =>
    rw [Breaker.onSuccess_opened hs, ← hs]
    exact h.clear rfl rfl now

end Told

/-! ## What a line says -/

/-- What a line of the log says, given the lines before it. -/
structure LogLine.Follows (c : BreakerConfig) (earlier : BreakerLog) (l : LogLine) : Prop where
  time : ∀ e ∈ earlier, e.time ≤ l.time
  before : l.before = earlier.state
  failedBefore : l.before = .opened → earlier.lastFailure?.isSome
  starts : ∀ call, l.Starts call →
    (l.note = .rejected call ↔ l.before = .opened ∧ Cooling c earlier l.time)
  ofClosed : l.before = .closed →
    (l.after = .opened ↔ l.note.isFailure ∧ failuresInRow (l :: earlier) = c.limit) ∧
      l.after ≠ .halfOpen
  ofHalfOpen : l.before = .halfOpen →
    (l.after = .closed ↔
      l.note = .reset ∨ l.note.isSuccess ∧ successesOnTrial (l :: earlier) = 2) ∧
      (l.after = .opened ↔ l.note.isFailure ∧ failuresOnTrial (l :: earlier) = 1)
  ofOpened : l.before = .opened →
    (l.after = .halfOpen ↔ l.note.isAdmission) ∧ (l.after = .closed ↔ l.note.clears)
  early : l.before = .opened → ∀ call, l.note = .succeeded call →
    earlier.beforeOpening.Admitted call

namespace Told

variable {c : BreakerConfig} {log : BreakerLog} {b : Breaker} {now : Instant}

theorem cooledDown_iff (h : Told c log b) (hpast : ∀ e ∈ log, e.time ≤ now) :
    b.cooledDown c now = false ↔ Cooling c log now := by
  unfold Breaker.cooledDown Cooling
  rw [h.lastFailure]
  cases hlast : log.lastFailure? with
  | none => simp
  | some failed =>
    obtain ⟨l, hl, rfl⟩ := mem_of_lastFailure? hlast
    simp only [Option.some.injEq, exists_eq_left', decide_eq_false_iff_not]
    exact Nat.not_le.trans (Nat.sub_lt_iff_lt_add' (hpast l hl))

theorem admit_follows (h : Told c log b) (hpast : ∀ e ∈ log, e.time ≤ now) (call : Nat)
    {b' : Breaker} (he : b.enter c now = (true, b')) :
    (⟨.admitted call, now, b.state, b'.state⟩ : LogLine).Follows c log := by
  rcases Breaker.enter_admitted he with ⟨hs, rfl⟩ | ⟨hs, hcooled, rfl⟩
  · refine ⟨hpast, h.state, h.opened, fun _ _ => ⟨nofun, fun hcooling => absurd hcooling.1 hs⟩,
      fun hb => ?_, fun hb => ?_, fun hb => absurd hb hs, nofun⟩
    · simp [show b'.state = .closed from hb, BreakerNote.isFailure]
    · simp [show b'.state = .halfOpen from hb, BreakerNote.isFailure, BreakerNote.isSuccess]
  · refine ⟨hpast, h.state, h.opened, fun _ _ => ⟨nofun, fun hcooling => ?_⟩, ?_, ?_, ?_, nofun⟩
    · rw [← h.cooledDown_iff hpast, hcooled] at hcooling
      cases hcooling.2
    · simp [hs]
    · simp [hs]
    · simp [BreakerNote.isAdmission, BreakerNote.clears]

theorem reject_follows (h : Told c log b) (hpast : ∀ e ∈ log, e.time ≤ now) (call : Nat)
    {b' : Breaker} (he : b.enter c now = (false, b')) :
    (⟨.rejected call, now, b.state, b'.state⟩ : LogLine).Follows c log := by
  obtain ⟨hs, hcooled, rfl⟩ := Breaker.enter_rejected he
  have hcooling : Cooling c log now := (h.cooledDown_iff hpast).mp hcooled
  refine ⟨hpast, h.state, h.opened, fun _ hn => ⟨fun _ => ⟨hs, hcooling⟩, fun _ => ?_⟩,
    ?_, ?_, ?_, nofun⟩
  · rcases hn with hn | hn
    · cases hn
    · exact hn
  · simp [hs]
  · simp [hs]
  · simp [hs, BreakerNote.isAdmission, BreakerNote.clears]

theorem fail_follows (h : Told c log b) (hpast : ∀ e ∈ log, e.time ≤ now) (call : Nat) :
    (⟨.failed call, now, b.state, (b.onFailure c now).state⟩ : LogLine).Follows c log where
  time := hpast
  before := h.state
  failedBefore := h.opened
  starts _ hn := by rcases hn with hn | hn <;> cases hn
  ofClosed hs := by
    obtain ⟨hcount, hlt⟩ := h.closed hs
    rw [Breaker.onFailure_closed now hs hlt, failuresInRow, countSince_cons, ← failuresInRow,
      ← hcount]
    by_cases hlimit : b.failures + 1 = c.limit
    · simp [BreakerNote.clears, BreakerNote.isFailure, hlimit]
    · simp [BreakerNote.clears, BreakerNote.isFailure, hlimit]
  ofHalfOpen hs := by
    obtain ⟨_, _, hnone⟩ := h.halfOpen hs
    rw [Breaker.onFailure_halfOpen now hs, failuresOnTrial, countSince_cons, ← failuresOnTrial,
      hnone]
    simp [BreakerNote.isSuccess, BreakerNote.isFailure, LogLine.enters]
  ofOpened hs := by
    rw [Breaker.onFailure_opened now hs]
    simp [BreakerNote.isAdmission, BreakerNote.clears, show b.state = .opened from hs]
  early := nofun

theorem succeed_follows (h : Told c log b) (hpast : ∀ e ∈ log, e.time ≤ now) {call : Nat}
    (hearly : b.state = .opened → log.beforeOpening.Admitted call) :
    (⟨.succeeded call, now, b.state, b.onSuccess.state⟩ : LogLine).Follows c log where
  time := hpast
  before := h.state
  failedBefore := h.opened
  starts _ hn := by rcases hn with hn | hn <;> cases hn
  ofClosed hs := by
    rw [Breaker.onSuccess_closed hs]
    simp [BreakerNote.isFailure, show b.state = .closed from hs]
  ofHalfOpen hs := by
    obtain ⟨hcount, hlt, _⟩ := h.halfOpen hs
    have henters : (⟨.succeeded call, now, b.state, b.onSuccess.state⟩ : LogLine).enters .halfOpen =
        false := by simp [LogLine.enters, show b.state = .halfOpen from hs]
    rw [successesOnTrial, countSince_cons, henters, ← successesOnTrial, ← hcount,
      Breaker.onSuccess_halfOpen hs hlt]
    by_cases hlast : b.successes + 1 = Breaker.trialSuccesses
    · simp [BreakerNote.isSuccess, BreakerNote.isFailure, hlast, Breaker.reset,
        Breaker.trialSuccesses]
    · simp [BreakerNote.isSuccess, BreakerNote.isFailure, hlast, show b.state = .halfOpen from hs,
        show ¬b.successes + 1 = 2 from hlast]
  ofOpened hs := by
    rw [Breaker.onSuccess_opened hs]
    simp [BreakerNote.isAdmission, BreakerNote.clears, Breaker.reset]
  early hs _ hn := by
    cases hn
    exact hearly hs

theorem reset_follows (h : Told c log b) (hpast : ∀ e ∈ log, e.time ≤ now) :
    (⟨.reset, now, b.state, b.reset.state⟩ : LogLine).Follows c log where
  time := hpast
  before := h.state
  failedBefore := h.opened
  starts _ hn := by rcases hn with hn | hn <;> cases hn
  ofClosed _ := by simp [BreakerNote.isFailure, Breaker.reset]
  ofHalfOpen _ := by simp [BreakerNote.isFailure, Breaker.reset]
  ofOpened _ := by simp [BreakerNote.isAdmission, BreakerNote.clears, Breaker.reset]
  early := nofun

end Told

/-! ## The invariant of a run -/

/-- Every line says what it should, given the lines before it. -/
def BreakerLog.Lawful (c : BreakerConfig) : BreakerLog → Prop
  | [] => True
  | l :: earlier => l.Follows c earlier ∧ Lawful c earlier

/-- The log is lawful and tells the breaker, nothing in it lies ahead, the calls under way have been
admitted, those of an open breaker before it opened, and every call that has started has its line:
it is invoked exactly if it was admitted, and no call is both admitted and rejected. -/
structure BreakerRun.Sound (c : BreakerConfig) (w : BreakerRun) : Prop where
  told : Told c w.log w.breaker
  lawful : w.log.Lawful c
  past : ∀ l ∈ w.log, l.time ≤ w.now
  running : ∀ call ∈ w.running, w.log.Admitted call
  early : w.breaker.state = .opened → ∀ call ∈ w.running, w.log.beforeOpening.Admitted call
  numbered : ∀ call, call < w.started ↔ ∃ l ∈ w.log, l.Starts call
  invoked : ∀ call, call ∈ w.invoked ↔ w.log.Admitted call
  refused : ∀ l ∈ w.log, ∀ call, l.note = .rejected call → ¬w.log.Admitted call

theorem BreakerLog.Lawful.suffix {c : BreakerConfig} {later earlier : BreakerLog}
    (h : Lawful c (later ++ earlier)) : Lawful c earlier := by
  induction later with
  | nil => exact h
  | cons _ later ih => exact ih h.2

theorem BreakerLog.Lawful.follows {c : BreakerConfig} {later earlier : BreakerLog} {l : LogLine}
    (h : Lawful c (later ++ l :: earlier)) : l.Follows c earlier := h.suffix.1

namespace BreakerRun.Sound

variable {c : BreakerConfig} {w : BreakerRun}

theorem fresh (c : BreakerConfig) (now : Instant) : (BreakerRun.fresh now).Sound c where
  told := .fresh c
  lawful := True.intro
  past _ h := nomatch h
  running _ h := nomatch h
  early _ _ h := nomatch h
  numbered _ := ⟨nofun, fun ⟨_, h, _⟩ => nomatch h⟩
  invoked _ := ⟨nofun, fun ⟨_, h, _⟩ => nomatch h⟩
  refused _ h := nomatch h

theorem noted_past (h : w.Sound c) (note : BreakerNote) (b : Breaker) :
    ∀ l ∈ (w.noted note b).log, l.time ≤ w.now := by
  intro l hl
  rcases List.mem_cons.mp hl with rfl | hl
  · exact Nat.le_refl _
  · exact h.past l hl

theorem noted_running (h : w.Sound c) (note : BreakerNote) (b : Breaker) {call : Nat}
    (hc : call ∈ w.running) : (w.noted note b).log.Admitted call :=
  (admitted_cons _ _ call).mpr (Or.inr (h.running call hc))

/-- When a breaker opens, every call under way has been admitted before; while it stays open, none
is admitted. -/
theorem noted_early (h : w.Sound c) (note : BreakerNote) {b : Breaker} (hs : b.state = .opened)
    {call : Nat} (hc : call ∈ w.running) : (w.noted note b).log.beforeOpening.Admitted call := by
  simp only [BreakerRun.noted, beforeOpening_cons]
  split
  · exact h.running call hc
  · rename_i hstays
    refine h.early ?_ call hc
    simpa [LogLine.enters, hs] using hstays

/-- The number of the next call stands nowhere in the log. -/
theorem new (h : w.Sound c) {l : LogLine} (hl : l ∈ w.log) : ¬l.Starts w.started :=
  fun hstarts => Nat.lt_irrefl _ ((h.numbered _).mpr ⟨l, hl, hstarts⟩)

theorem noted_numbered (h : w.Sound c) {note : BreakerNote} (b : Breaker)
    (hnote : note = .admitted w.started ∨ note = .rejected w.started) (call : Nat) :
    call < w.started + 1 ↔ ∃ l ∈ (w.noted note b).log, l.Starts call := by
  have hcall : call = w.started ↔
      (⟨note, w.now, w.breaker.state, b.state⟩ : LogLine).Starts call := by
    rcases hnote with rfl | rfl <;> simp [LogLine.Starts, eq_comm]
  simp only [BreakerRun.noted, List.mem_cons, exists_eq_or_imp, ← hcall, ← h.numbered]
  exact Nat.lt_succ_iff_lt_or_eq.trans Or.comm

theorem start_admitted (h : w.Sound c) {b : Breaker} (he : w.breaker.enter c w.now = (true, b)) :
    Sound c { w.noted (.admitted w.started) b with
      started := w.started + 1
      running := w.started :: w.running
      invoked := w.started :: w.invoked } where
  told := h.told.start_admitted w.started he
  lawful := ⟨h.told.admit_follows h.past w.started he, h.lawful⟩
  past := h.noted_past _ _
  running call hc := by
    rcases List.mem_cons.mp hc with rfl | hc
    · exact ⟨_, .head _, rfl⟩
    · exact h.noted_running _ _ hc
  early hs := by
    -- A breaker that admits a call is not open after it.
    rcases Breaker.enter_admitted he with ⟨hne, rfl⟩ | ⟨_, _, rfl⟩
    · exact absurd hs hne
    · cases hs
  numbered := h.noted_numbered b (Or.inl rfl)
  invoked call := by
    rw [List.mem_cons, h.invoked call]
    simp only [BreakerRun.noted, admitted_cons, BreakerNote.admitted.injEq, eq_comm]
  refused l hl call hnote hadmitted := by
    rcases List.mem_cons.mp hl with rfl | hl
    · cases hnote
    · rcases (admitted_cons _ _ call).mp hadmitted with hnew | hold
      · cases hnew
        exact h.new hl (Or.inr hnote)
      · exact h.refused l hl call hnote hold

theorem start_rejected (h : w.Sound c) {b : Breaker} (he : w.breaker.enter c w.now = (false, b)) :
    Sound c { w.noted (.rejected w.started) b with started := w.started + 1 } where
  told := h.told.start_rejected w.started he
  lawful := ⟨h.told.reject_follows h.past w.started he, h.lawful⟩
  past := h.noted_past _ _
  running _ hc := h.noted_running _ _ hc
  early hs _ hc := h.noted_early _ hs hc
  numbered := h.noted_numbered b (Or.inr rfl)
  invoked call := (h.invoked call).trans (by simp [BreakerRun.noted, admitted_cons])
  refused l hl call hnote hadmitted := by
    rcases (admitted_cons _ _ call).mp hadmitted with hnew | ⟨k, hk, hold⟩
    · cases hnew
    · rcases List.mem_cons.mp hl with rfl | hl
      · cases hnote
        exact h.new hk (Or.inl hold)
      · exact h.refused l hl call hnote ⟨k, hk, hold⟩

/-- A note that is not about a start; calls may have ended. -/
theorem other (h : w.Sound c) {note : BreakerNote} {b : Breaker} {running : List Nat}
    (hsub : running ⊆ w.running) (hnote : ∀ call, note ≠ .admitted call ∧ note ≠ .rejected call)
    (htold : Told c (w.noted note b).log b) (hlawful : (w.noted note b).log.Lawful c) :
    Sound c { w.noted note b with running } where
  told := htold
  lawful := hlawful
  past := h.noted_past _ _
  running _ hc := h.noted_running _ _ (hsub hc)
  early hs _ hc := h.noted_early _ hs (hsub hc)
  numbered call := by
    have hnone : ¬(⟨note, w.now, w.breaker.state, b.state⟩ : LogLine).Starts call :=
      fun hs => hs.elim (hnote call).1 (hnote call).2
    simp only [BreakerRun.noted, List.mem_cons, exists_eq_or_imp, hnone, false_or, h.numbered]
  invoked call := by
    simp only [BreakerRun.noted, admitted_cons, h.invoked call, (hnote call).1, false_or]
  refused l hl call hn hadmitted := by
    rcases (admitted_cons _ _ call).mp hadmitted with hnew | hold
    · exact (hnote call).1 hnew
    · rcases List.mem_cons.mp hl with rfl | hl
      · exact (hnote call).2 hn
      · exact h.refused l hl call hn hold

theorem act (h : w.Sound c) (a : BreakerAct) : (w.act c a).Sound c := by
  cases a with
  | start =>
    rcases he : w.breaker.enter c w.now with ⟨_ | _, b⟩
    · simp only [BreakerRun.act, he]
      exact h.start_rejected he
    · simp only [BreakerRun.act, he]
      exact h.start_admitted he
  | finish call succeeds =>
    simp only [BreakerRun.act]
    split
    · rename_i hc
      cases succeeds with
      | false =>
        exact h.other List.erase_subset (fun _ => ⟨nofun, nofun⟩) (h.told.fail call w.now)
          ⟨h.told.fail_follows h.past call, h.lawful⟩
      | true =>
        exact h.other List.erase_subset (fun _ => ⟨nofun, nofun⟩) (h.told.succeed call w.now)
          ⟨h.told.succeed_follows h.past fun hs => h.early hs call hc, h.lawful⟩
    · exact h
  | reset =>
    exact h.other (List.Subset.refl _) (fun _ => ⟨nofun, nofun⟩) (h.told.clear rfl rfl w.now)
      ⟨h.told.reset_follows h.past, h.lawful⟩
  | wait nanos =>
    exact { h with past := fun l hl => Nat.le_trans (h.past l hl) (Nat.le_add_right _ _) }

theorem play (h : w.Sound c) (acts : List BreakerAct) : (w.play c acts).Sound c := by
  induction acts generalizing w with
  | nil => exact h
  | cons a rest ih => exact ih (h.act a)

end BreakerRun.Sound

end FeedSearch
