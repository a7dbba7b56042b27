-- Every change of state of a breaker, over every run: at which note it comes,
-- and what has been noted before.
import FeedSearch.Proofs.BreakerAdmission

namespace FeedSearch

open BreakerLog

/-! ## Out of the open state -/

namespace LogLine.Follows

variable {c : BreakerConfig} {earlier : BreakerLog} {l : LogLine}

/-- A breaker that goes on trial has cooled down. -/
theorem cooled_of_trial (h : l.Follows c earlier) (hb : l.before = .opened)
    (ha : l.after = .halfOpen) :
    ∃ failed, earlier.lastFailure? = some failed ∧ failed + c.resetTimeout.toNanos ≤ l.time := by
  obtain ⟨failed, hlast⟩ := Option.isSome_iff_exists.mp (h.failedBefore hb)
  obtain ⟨call, hn⟩ := BreakerNote.isAdmission_iff.mp ((h.ofOpened hb).1.mp ha)
  exact ⟨failed, hlast, h.cooled_of_admitted hn hb hlast⟩

/-- An open breaker is closed by a reset or by a call that started before it opened. -/
theorem closed_of_opened (h : l.Follows c earlier) (hb : l.before = .opened) :
    l.after = .closed ↔
      l.note = .reset ∨ ∃ call, l.note = .succeeded call ∧ earlier.beforeOpening.Admitted call := by
  rw [(h.ofOpened hb).2, BreakerNote.clears_iff]
  constructor
  · rintro (hreset | ⟨call, hn⟩)
    · exact Or.inl hreset
    · exact Or.inr ⟨call, hn, h.early hb call hn⟩
  · rintro (hreset | ⟨call, hn, _⟩)
    · exact Or.inl hreset
    · exact Or.inr ⟨call, hn⟩

end LogLine.Follows

/-! ## The law -/

namespace BreakerRun

/-- The history alone tells when the state changes. A closed breaker opens at the failure that makes
the limit of failures in a row. A breaker on trial closes at a reset or at the second success of the
trial and opens at the first failure. An open breaker goes on trial with a call that is admitted
after the cool-down, and closes at a reset or at the success of a call from before it opened.
Nothing else changes the state. -/
theorem the_history_tells_when_a_breaker_changes (c : BreakerConfig) (made : Instant)
    (acts : List BreakerAct) :
    let w := (fresh made).play c acts
    w.breaker.state = w.log.state ∧
    ∀ later l earlier, w.log = later ++ l :: earlier →
      l.before = BreakerLog.state earlier ∧
      (l.before = .closed →
        (l.after = .opened ↔ l.note.isFailure = true ∧
          failuresInRow (l :: earlier) = max 1 c.maxFailures.toNat) ∧
        l.after ≠ .halfOpen) ∧
      (l.before = .halfOpen →
        (l.after = .closed ↔ l.note = .reset ∨
          l.note.isSuccess = true ∧ successesOnTrial (l :: earlier) = 2) ∧
        (l.after = .opened ↔ l.note.isFailure = true ∧ failuresOnTrial (l :: earlier) = 1)) ∧
      (l.before = .opened →
        (l.after = .halfOpen ↔ l.note.isAdmission = true) ∧
        (l.after = .halfOpen → ∃ failed, lastFailure? earlier = some failed ∧
          failed + c.resetTimeout.toNanos ≤ l.time) ∧
        (l.after = .closed ↔ l.note = .reset ∨
          ∃ call, l.note = .succeeded call ∧ (beforeOpening earlier).Admitted call)) := by
  intro w
  have hsound : w.Sound c := (Sound.fresh c made).play acts
  refine ⟨hsound.told.state, fun later l earlier hlog => ?_⟩
  have hl : l.Follows c earlier := (hlog ▸ hsound.lawful).follows
  exact ⟨hl.before, hl.ofClosed, hl.ofHalfOpen, fun hb =>
    ⟨(hl.ofOpened hb).1, hl.cooled_of_trial hb, hl.closed_of_opened hb⟩⟩

/-- Two calls start, the first one fails and the breaker opens. The second one has been admitted
before that, and its success closes the breaker. -/
theorem a_late_success_closes_an_open_breaker :
    let c : BreakerConfig := { maxFailures := 1, resetTimeout := .ofSeconds 30 }
    let w := (fresh 0).play c [.start, .start, .finish 0 false, .finish 1 true]
    ∃ success opening earlier, w.log = success :: opening :: earlier ∧
      opening.note = .failed 0 ∧ opening.before = .closed ∧ opening.after = .opened ∧
      success.note = .succeeded 1 ∧ success.after = .closed ∧ w.breaker.state = .closed := by
  intro c w
  let success : LogLine := ⟨.succeeded 1, 0, .opened, .closed⟩
  let opening : LogLine := ⟨.failed 0, 0, .closed, .opened⟩
  let earlier : BreakerLog :=
    [⟨.admitted 1, 0, .closed, .closed⟩, ⟨.admitted 0, 0, .closed, .closed⟩]
  have hlog : w.log = success :: opening :: earlier := by decide +kernel
  obtain ⟨hstate, law⟩ := the_history_tells_when_a_breaker_changes c 0
    [.start, .start, .finish 0 false, .finish 1 true]
  obtain ⟨_, hopens, _, _⟩ := law [success] opening earlier hlog
  obtain ⟨_, _, _, hcloses⟩ := law [] success (opening :: earlier) hlog
  have hopened : opening.after = .opened := (hopens rfl).1.mpr ⟨rfl, by decide⟩
  have hclosed : success.after = .closed := (hcloses rfl).2.2.mpr
    (Or.inr ⟨1, rfl, ⟨.admitted 1, 0, .closed, .closed⟩, .head _, rfl⟩)
  refine ⟨success, opening, earlier, hlog, rfl, rfl, hopened, rfl, hclosed, ?_⟩
  exact hstate.trans ((congrArg BreakerLog.state hlog).trans hclosed)

end BreakerRun

end FeedSearch
