-- What a breaker may hold in each of its states. Four operations change its counts,
-- some of them for calls that started long ago, and none of them forgets one: the
-- counts always fit the state, and an open breaker always knows when it last failed.
import FeedSearch.Proofs.BreakerRuns

namespace FeedSearch

namespace Breaker

/-! ## Counts that fit the state -/

/-- The counts of a breaker fit its state, and no failure lies ahead. -/
structure Orderly (c : BreakerConfig) (b : Breaker) (now : Instant) : Prop where
  closed : b.state = .closed → b.failures < c.limit ∧ b.successes = 0
  halfOpen : b.state = .halfOpen → b.failures = 0 ∧ b.successes < trialSuccesses
  opened : b.state = .opened → 0 < b.failures ∧ b.successes = 0 ∧ b.lastFailure.isSome
  counted : b.failures ≤ Number.maxCount32
  past : ∀ failed, b.lastFailure = some failed → failed ≤ now

namespace Orderly

variable {c : BreakerConfig} {b : Breaker} {now : Instant}

theorem fresh (c : BreakerConfig) (now : Instant) : Breaker.fresh.Orderly c now :=
  ⟨fun _ => ⟨c.limit_pos, rfl⟩, nofun, nofun, Nat.zero_le _, nofun⟩

theorem later (h : b.Orderly c now) (nanos : Nat) : b.Orderly c (now + nanos) :=
  { h with past := fun failed hf => Nat.le_add_right_of_le (h.past failed hf) }

theorem reset (h : b.Orderly c now) : b.reset.Orderly c now :=
  ⟨fun _ => ⟨c.limit_pos, rfl⟩, nofun, nofun, Nat.zero_le _, h.past⟩

/-- A call that starts leaves the breaker as it is, or puts it on trial with no counts. -/
theorem enter (h : b.Orderly c now) : (b.enter c now).2.Orderly c now := by
  rcases he : b.enter c now with ⟨admitted, b'⟩
  cases admitted with
  | true =>
    rcases enter_admitted he with ⟨_, rfl⟩ | ⟨_, _, rfl⟩
    · exact h
    · exact ⟨nofun, fun _ => ⟨rfl, Nat.two_pos⟩, nofun, Nat.zero_le _, h.past⟩
  | false =>
    obtain ⟨_, _, rfl⟩ := enter_rejected he
    exact h

/-- A breaker that is open after a failure has counted it, and knows its time. -/
theorem onFailure (h : b.Orderly c now) : (b.onFailure c now).Orderly c now := by
  have hnow : ∀ failed, some now = some failed → failed ≤ now := by
    rintro _ ⟨⟩
    exact Nat.le_refl now
  cases hs : b.state with
  | closed =>
    obtain ⟨hlt, hnone⟩ := h.closed hs
    rw [onFailure_closed now hs hlt]
    have hcounted : b.failures + 1 ≤ Number.maxCount32 := by
      rw [← oneMore_of_lt hlt]
      exact Nat.min_le_right _ _
    refine ⟨fun hclosed => ?_, fun htrial => ?_, fun _ => ⟨Nat.succ_pos _, hnone, rfl⟩, hcounted,
      hnow⟩
    · simp only at hclosed
      split at hclosed
      · cases hclosed
      · exact ⟨by simp only; omega, hnone⟩
    · simp only at htrial
      split at htrial <;> cases htrial
  | halfOpen =>
    rw [onFailure_halfOpen now hs]
    have hone : 1 ≤ Number.maxCount32 := by decide
    exact ⟨nofun, nofun, fun _ => ⟨Nat.one_pos, rfl, rfl⟩, hone, hnow⟩
  | opened =>
    obtain ⟨hpos, hnone, _⟩ := h.opened hs
    rw [onFailure_opened now hs]
    have hmore : 0 < oneMore b.failures := by
      unfold oneMore Number.maxCount32
      omega
    refine ⟨fun hclosed => ?_, fun htrial => ?_, fun _ => ⟨hmore, hnone, rfl⟩,
      Nat.min_le_right _ _, hnow⟩
    · rw [hs] at hclosed
      cases hclosed
    · rw [hs] at htrial
      cases htrial

/-- A success counts on trial alone, and the second one ends the trial. -/
theorem onSuccess (h : b.Orderly c now) : b.onSuccess.Orderly c now := by
  cases hs : b.state with
  | closed =>
    obtain ⟨_, hnone⟩ := h.closed hs
    rw [onSuccess_closed hs]
    refine ⟨fun _ => ⟨c.limit_pos, hnone⟩, fun htrial => ?_, fun hopen => ?_, Nat.zero_le _,
      h.past⟩
    · rw [hs] at htrial
      cases htrial
    · rw [hs] at hopen
      cases hopen
  | halfOpen =>
    obtain ⟨_, hlt⟩ := h.halfOpen hs
    rw [onSuccess_halfOpen hs hlt]
    split
    · exact h.reset
    · refine ⟨fun hclosed => ?_, fun _ => ⟨rfl, by simp only; omega⟩, fun hopen => ?_,
        Nat.zero_le _, h.past⟩
      · rw [hs] at hclosed
        cases hclosed
      · rw [hs] at hopen
        cases hopen
  | opened =>
    rw [onSuccess_opened hs]
    exact h.reset

/-! ## What follows from it -/

/-- An open breaker never has to do without the time of its last failure. -/
theorem enter_iff (h : b.Orderly c now) (hs : b.state = .opened) :
    ∃ failed, b.lastFailure = some failed ∧ failed ≤ now ∧
      ((b.enter c now).1 = true ↔ failed + c.resetTimeout.toNanos ≤ now) := by
  obtain ⟨_, _, hsome⟩ := h.opened hs
  obtain ⟨failed, hfailed⟩ := Option.isSome_iff_exists.mp hsome
  have hpast := h.past failed hfailed
  have hasked : (b.enter c now).1 = b.cooledDown c now := by
    unfold Breaker.enter
    simp only [hs]
    split
    · rename_i hcooled
      exact hcooled.symm
    · rename_i hcooled
      exact (Bool.eq_false_iff.mpr hcooled).symm
  refine ⟨failed, hfailed, hpast, ?_⟩
  rw [hasked]
  unfold cooledDown
  rw [hfailed, decide_eq_true_iff]
  exact Nat.le_sub_iff_add_le' hpast

theorem successes_lt (h : b.Orderly c now) : b.successes < trialSuccesses := by
  cases hs : b.state with
  | closed =>
    rw [(h.closed hs).2]
    decide
  | halfOpen => exact (h.halfOpen hs).2
  | opened =>
    rw [(h.opened hs).2.1]
    decide

end Orderly

end Breaker

namespace BreakerRun

/-! ## Over every run -/

theorem act_orderly {c : BreakerConfig} {w : BreakerRun} (h : w.breaker.Orderly c w.now)
    (a : BreakerAct) : (w.act c a).breaker.Orderly c (w.act c a).now := by
  cases a with
  | start =>
    have henter := h.enter
    rcases he : w.breaker.enter c w.now with ⟨_ | _, b⟩
    all_goals
      rw [he] at henter
      simp only [act, he]
      exact henter
  | finish call succeeds =>
    simp only [act]
    split
    · cases succeeds with
      | false => exact h.onFailure
      | true => exact h.onSuccess
    · exact h
  | reset => exact h.reset
  | wait nanos => exact h.later nanos

theorem play_orderly {c : BreakerConfig} {w : BreakerRun} (h : w.breaker.Orderly c w.now)
    (acts : List BreakerAct) : (w.play c acts).breaker.Orderly c (w.play c acts).now := by
  induction acts generalizing w with
  | nil => exact h
  | cons a rest ih => exact ih (act_orderly h a)

/-! ## The law -/

/-- Whatever calls start, end and never end, and whoever resets the breaker in between, at any time:
a closed breaker has fewer failures than open it and no success; one on trial has no failure and
fewer successes than close it; an open one has failed, has no success, and knows when it last
failed. So an open breaker goes by the time of its last failure whenever it is asked, and one more
success always fits its 32 bits, as the failures do. -/
theorem the_counts_of_a_breaker_fit_its_state (c : BreakerConfig) (made : Instant)
    (acts : List BreakerAct) :
    let w := (fresh made).play c acts
    (w.breaker.state = .closed →
      w.breaker.failures < max 1 c.maxFailures.toNat ∧ w.breaker.successes = 0) ∧
    (w.breaker.state = .halfOpen → w.breaker.failures = 0 ∧ w.breaker.successes < 2) ∧
    (w.breaker.state = .opened → 1 ≤ w.breaker.failures ∧ w.breaker.successes = 0 ∧
      ∃ failed, w.breaker.lastFailure = some failed ∧ failed ≤ w.now ∧
        ((w.breaker.enter c w.now).1 = true ↔ failed + c.resetTimeout.toNanos ≤ w.now)) ∧
    (UInt32.ofNat w.breaker.successes + 1).toNat = w.breaker.successes + 1 ∧
    (UInt32.ofNat w.breaker.failures).toNat = w.breaker.failures := by
  intro w
  have horderly : w.breaker.Orderly c w.now := play_orderly (.fresh c made) acts
  refine ⟨horderly.closed, horderly.halfOpen, fun hs => ?_, ?_, ?_⟩
  · obtain ⟨hpos, hnone, _⟩ := horderly.opened hs
    exact ⟨hpos, hnone, horderly.enter_iff hs⟩
  · have hlt := horderly.successes_lt
    unfold Breaker.trialSuccesses at hlt
    rw [UInt32.toNat_add, UInt32.toNat_ofNat', UInt32.toNat_one]
    omega
  · have hle := horderly.counted
    unfold Number.maxCount32 at hle
    rw [UInt32.toNat_ofNat']
    omega

/-- Four calls start. Three of them fail, one more than open the breaker, and the fourth succeeds
late, when the breaker is on trial with a fifth: it counts for the trial. -/
theorem a_trial_counts_a_call_from_before_it :
    let run := (fresh 0).play { maxFailures := 2, resetTimeout := .ofSeconds 30 }
    let failing : List BreakerAct := [.start, .start, .start, .start, .finish 0 false,
      .finish 1 false, .finish 2 false]
    let trying : List BreakerAct := failing ++ [.wait 30000000000, .start, .finish 3 true]
    (run failing).breaker.state = .opened ∧ (run failing).breaker.failures = 3 ∧
      (run failing).breaker.successes = 0 ∧
      (run trying).breaker.state = .halfOpen ∧ (run trying).breaker.failures = 0 ∧
      (run trying).breaker.successes = 1 ∧ (run trying).breaker.successes < 2 := by
  intro run failing trying
  obtain ⟨_, _, hopened, _, _⟩ := the_counts_of_a_breaker_fit_its_state
    { maxFailures := 2, resetTimeout := .ofSeconds 30 } 0 failing
  obtain ⟨_, htrial, _, _, _⟩ := the_counts_of_a_breaker_fit_its_state
    { maxFailures := 2, resetTimeout := .ofSeconds 30 } 0 trying
  have hopen : (run failing).breaker.state = .opened := by decide +kernel
  have hhalf : (run trying).breaker.state = .halfOpen := by decide +kernel
  obtain ⟨_, hnone, _⟩ := hopened hopen
  obtain ⟨hclear, hfew⟩ := htrial hhalf
  exact ⟨hopen, by decide +kernel, hnone, hhalf, hclear, by decide +kernel, hfew⟩

end BreakerRun

end FeedSearch
